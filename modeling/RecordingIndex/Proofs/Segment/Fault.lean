import Mathlib.Data.List.Nodup
import Mathlib.Data.List.Perm.Subperm
import RecordingIndex.Proofs.Segment.Order

/-!
# Proofs — Segment — faults of names

Ordering fails over a fault of the names, a malformed one or two that share a number
(`isFault_of_order`), and only over one: numbered paths have one order, which is the one found
(`orders_order`).  Which of several faults it complains about depends on the order of the files;
where there is one at most, the order of the files does not matter (`order_eq_of_perm`).
-/

namespace RecordingIndex.Segment

variable {seen ss ts : List Segment} {paths qs ps before : List Path} {p q : Path} {e : Failure}
  {id : UInt64}

/-! ### Complaints -/

/-- The lesser name comes first in a complaint, however the two are given. -/
theorem duplicate_comm (id : UInt64) (a b : String) : duplicate id a b = duplicate id b a := by
  rw [duplicate, duplicate]
  by_cases hab : a < b
  · rw [if_neg (String.lt_asymm hab), if_pos hab]
  · by_cases hba : b < a
    · rw [if_pos hba, if_neg hab]
    · rw [if_neg hba, if_neg hab, String.le_antisymm (String.not_lt.mp hba) (String.not_lt.mp hab)]

/-- Two of the paths share a number. -/
structure Share (paths : List Path) (p q : Path) (id : UInt64) : Prop where
  subperm : List.Subperm [p, q] paths
  left    : idOf p = .ok id
  right   : idOf q = .ok id

/-- What ordering may complain about. -/
inductive IsFault (paths : List Path) : Failure → Prop where
  | malformed {p : Path} {e : Failure} (mem : p ∈ paths) (malformed : idOf p = .error e) :
      IsFault paths e
  | shared {p q : Path} {id : UInt64} (share : Share paths p q id) :
      IsFault paths (duplicate id p.fileNameLossy q.fileNameLossy)

/-- There is one malformed name at most, or one pair that shares a number, and not both. -/
structure AtMostOneFault (paths : List Path) : Prop where
  malformed : ∀ p ∈ paths, ∀ q ∈ paths, ∀ e e', idOf p = .error e → idOf q = .error e' → p = q
  shared    : ∀ p q id p' q' id', Share paths p q id → Share paths p' q' id' →
                (p = p' ∧ q = q') ∨ (p = q' ∧ q = p')
  exclusive : ∀ p ∈ paths, ∀ e, idOf p = .error e → ∀ q q' id, ¬Share paths q q' id

theorem Share.of_perm (h : Share paths p q id) (hperm : paths.Perm qs) : Share qs p q id :=
  ⟨hperm.subperm_left.mp h.subperm, h.left, h.right⟩

theorem IsFault.of_perm (h : IsFault paths e) (hperm : paths.Perm qs) : IsFault qs e := by
  cases h with
  | malformed mem malformed => exact .malformed (hperm.mem_iff.mp mem) malformed
  | shared share => exact .shared (share.of_perm hperm)

/-- Where there is one fault at most, there is one complaint at most. -/
theorem AtMostOneFault.unique {e' : Failure} (h : AtMostOneFault paths) (he : IsFault paths e)
    (he' : IsFault paths e') : e = e' := by
  cases he with
  | malformed mem malformed =>
      cases he' with
      | malformed mem' malformed' =>
          cases h.malformed _ mem _ mem' _ _ malformed malformed'
          exact Except.error.inj (malformed.symm.trans malformed')
      | shared share' => exact absurd share' (h.exclusive _ mem _ malformed _ _ _)
  | shared share =>
      cases he' with
      | malformed mem' malformed' => exact absurd share (h.exclusive _ mem' _ malformed' _ _ _)
      | shared share' =>
          rcases h.shared _ _ _ _ _ _ share share' with ⟨rfl, rfl⟩ | ⟨rfl, rfl⟩
          · cases share.left.symm.trans share'.left
            rfl
          · cases share.left.symm.trans share'.right
            exact duplicate_comm _ _ _

/-! ### Where numbering stops -/

/-- Each path has a number in its name, and no two have the same. -/
structure IsNumbered (paths : List Path) : Prop where
  named    : ∀ p ∈ paths, ∃ id, idOf p = .ok id
  distinct : paths.Pairwise fun p q => idOf p ≠ idOf q

theorem IsNumbered.of_perm (h : IsNumbered paths) (hperm : paths.Perm qs) : IsNumbered qs :=
  ⟨fun p hp => h.named p (hperm.mem_iff.mpr hp), h.distinct.perm hperm Ne.symm⟩

theorem IsNumbered.concat (h : IsNumbered before) (hid : idOf p = .ok id)
    (hfree : ∀ q ∈ before, idOf q ≠ .ok id) : IsNumbered (before ++ [p]) where
  named    := by
    intro q hq
    rcases List.mem_append.mp hq with hq | hq
    · exact h.named q hq
    · rw [List.mem_singleton.mp hq]
      exact ⟨id, hid⟩
  distinct := by
    refine List.pairwise_append.mpr ⟨h.distinct, List.pairwise_singleton _ _, fun q hq r hr => ?_⟩
    rw [List.mem_singleton.mp hr, hid]
    exact hfree q hq

/-- What is said of the path `p`, which stands behind the paths `before`. -/
inductive Complains (before : List Path) (p : Path) : Failure → Prop where
  | malformed {e : Failure} (malformed : idOf p = .error e) :
      Complains before p (.malformedSegmentName p.fileNameLossy)
  | shared {q : Path} {id : UInt64} (mem : q ∈ before) (left : idOf q = .ok id)
      (right : idOf p = .ok id) :
      Complains before p (duplicate id q.fileNameLossy p.fileNameLossy)

/-- Numbering stops at a path behind numbered ones.  By induction on the paths to come; the segments
seen are the numbered paths before them. -/
theorem exists_complains_of_number : ∀ {ps : List Path} {seen : List Segment},
    number seen ps = .error e → (∀ s ∈ seen, idOf s.path = .ok s.id) →
      IsNumbered (seen.map Segment.path).reverse →
        ∃ before p after, (seen.map Segment.path).reverse ++ ps = before ++ p :: after ∧
          IsNumbered before ∧ Complains before p e
  | [],      seen, h, _, _ => by cases h
  | p :: ps, seen, h, hseen, hnumbered => by
      rw [number] at h
      cases hid : idOf p with
      | error e' =>
          rw [hid] at h
          cases h
          exact ⟨_, p, ps, rfl, hnumbered, eq_of_idOf hid ▸ .malformed hid⟩
      | ok id =>
      simp only [hid] at h
      cases hfind : seen.find? (·.id = id) with
      | some s =>
          rw [hfind] at h
          cases h
          have hs := List.mem_of_find?_eq_some hfind
          have hsid : s.id = id := by simpa using List.find?_some hfind
          have hmem : s.path ∈ (seen.map Segment.path).reverse :=
            List.mem_reverse.mpr (List.mem_map_of_mem hs)
          exact ⟨_, p, ps, rfl, hnumbered, .shared hmem (hsid ▸ hseen s hs) hid⟩
      | none =>
          rw [hfind] at h
          have hfree : ∀ q ∈ (seen.map Segment.path).reverse, idOf q ≠ .ok id := by
            intro q hq heq
            obtain ⟨s, hs, rfl⟩ := List.mem_map.mp (List.mem_reverse.mp hq)
            have hsid : s.id = id := Except.ok.inj ((hseen s hs).symm.trans heq)
            simpa [hsid] using List.find?_eq_none.mp hfind s hs
          have ih := exists_complains_of_number h (List.forall_mem_cons.mpr ⟨hid, hseen⟩)
            (by simpa using hnumbered.concat hid hfree)
          simpa using ih

/-- So does ordering. -/
theorem exists_complains_of_order (h : order paths = .error e) :
    ∃ before p after, paths = before ++ p :: after ∧ IsNumbered before ∧ Complains before p e := by
  rw [order] at h
  cases hn : number [] paths with
  | error e' =>
      rw [hn] at h
      cases h
      simpa using exists_complains_of_number hn (by simp) ⟨by simp, by simp⟩
  | ok ts => rw [hn] at h; cases h

/-! ### Faults and the order -/

/-- **Ordering** fails over a fault of the names. -/
theorem isFault_of_order (h : order paths = .error e) : IsFault paths e := by
  obtain ⟨before, p, after, rfl, -, hcomplains⟩ := exists_complains_of_order h
  cases hcomplains with
  | malformed malformed =>
      exact eq_of_idOf malformed ▸ .malformed (List.mem_append_right _ List.mem_cons_self) malformed
  | shared mem left right =>
      have hbefore := List.singleton_sublist.mpr mem
      have hbehind := List.singleton_sublist.mpr (List.mem_cons_self (a := p) (l := after))
      exact .shared ⟨(hbefore.append hbehind).subperm, left, right⟩

theorem IsNumbered.not_isFault (h : IsNumbered paths) : ¬IsFault paths e := by
  intro hfault
  cases hfault with
  | malformed mem malformed =>
      obtain ⟨id, hid⟩ := h.named _ mem
      cases malformed.symm.trans hid
  | shared share =>
      obtain ⟨xs, hperm, hsub⟩ := share.subperm
      have hpair := (h.distinct.sublist hsub).perm hperm Ne.symm
      exact List.rel_of_pairwise_cons hpair List.mem_cons_self (share.left.trans share.right.symm)

theorem IsOrder.nodup_ids (h : IsOrder paths ss) : (ss.map Segment.id).Nodup :=
  List.pairwise_map.mpr (h.ascending.imp fun hlt heq => UInt64.ne_of_lt hlt heq)

theorem IsOrder.nodup (h : IsOrder paths ss) : ss.Nodup := .of_map Segment.id h.nodup_ids

theorem IsOrder.isNumbered (h : IsOrder paths ss) : IsNumbered paths := by
  refine IsNumbered.of_perm ⟨fun p hp => ?_, ?_⟩ h.perm
  · obtain ⟨s, hs, rfl⟩ := List.mem_map.mp hp
    exact ⟨s.id, h.named s hs⟩
  · refine List.pairwise_map.mpr (h.ascending.imp_of_mem fun {s t} hs ht hlt heq => ?_)
    rw [h.named s hs, h.named t ht] at heq
    exact absurd hlt (Except.ok.inj heq ▸ UInt64.lt_irrefl _)

/-- Where there is an order, no name is malformed and no two share a number. -/
theorem IsOrder.not_isFault (h : IsOrder paths ss) : ¬IsFault paths e := h.isNumbered.not_isFault

theorem IsOrder.atMostOneFault (h : IsOrder paths ss) : AtMostOneFault paths where
  malformed _ hp _ _ _ _ he := absurd (.malformed hp he) h.not_isFault
  shared _ _ _ _ _ _ hshare := absurd (.shared hshare) h.not_isFault
  exclusive _ hp _ he := absurd (.malformed hp he) h.not_isFault

/-- There is one order of the paths at most. -/
theorem IsOrder.unique (hs : IsOrder paths ss) (ht : IsOrder paths ts) : ss = ts := by
  have hmem : ∀ {us vs : List Segment}, IsOrder paths us → IsOrder paths vs → us ⊆ vs := by
    intro us vs hus hvs s hs
    have hpath := hvs.perm.mem_iff.mpr (hus.perm.mem_iff.mp (List.mem_map_of_mem hs))
    obtain ⟨t, ht, heq⟩ := List.mem_map.mp hpath
    -- Segments at one path have one number.
    have hid := hvs.named t ht
    rw [heq, hus.named s hs] at hid
    have hst : s = t := by
      cases s
      cases t
      cases heq
      cases hid
      rfl
    exact hst ▸ ht
  have hperm : ss.Perm ts := (List.perm_ext_iff_of_nodup hs.nodup ht.nodup).mpr
    fun s => ⟨fun h => hmem hs ht h, fun h => hmem ht hs h⟩
  exact hperm.eq_of_pairwise (fun _ _ _ _ hlt hgt => absurd hlt (UInt64.lt_asymm hgt))
    hs.ascending ht.ascending

theorem IsOrder.of_perm (h : IsOrder paths ss) (hperm : paths.Perm qs) : IsOrder qs ss :=
  ⟨h.perm.trans hperm, h.named, h.ascending⟩

/-- **The order of the files** does not matter where their names have one fault at most. -/
theorem order_eq_of_perm (hperm : paths.Perm qs) (hfault : AtMostOneFault paths) :
    order paths = order qs := by
  cases hp : order paths with
  | error e =>
      have he := isFault_of_order hp
      cases hq : order qs with
      | error e' => rw [hfault.unique he ((isFault_of_order hq).of_perm hperm.symm)]
      | ok ts => exact absurd (he.of_perm hperm) (isOrder_of_order hq).not_isFault
  | ok ss =>
      have hs := (isOrder_of_order hp).of_perm hperm
      cases hq : order qs with
      | error e' => exact absurd (isFault_of_order hq) hs.not_isFault
      | ok ts => rw [hs.unique (isOrder_of_order hq)]

/-! ### What can be ordered -/

/-- Numbered paths can be ordered. -/
theorem IsNumbered.exists_order (h : IsNumbered paths) : ∃ ss, order paths = .ok ss := by
  cases horder : order paths with
  | error e => exact absurd (isFault_of_order horder) h.not_isFault
  | ok ss => exact ⟨ss, rfl⟩

/-- **What can be ordered** are the numbered paths.  They have one order, which is the one found,
however the paths are given. -/
theorem orders_order (paths : List Path) :
    ((∃ ss, order paths = .ok ss) ↔ IsNumbered paths) ∧
      (∀ ss, order paths = .ok ss → IsOrder paths ss ∧ ∀ ts, IsOrder paths ts → ts = ss) ∧
      ∀ qs, paths.Perm qs →
        (∃ ss, order paths = .ok ss ∧ order qs = .ok ss) ∨
        ∃ e e', order paths = .error e ∧ order qs = .error e' := by
  refine ⟨⟨?_, IsNumbered.exists_order⟩, fun ss h => ?_, fun qs hperm => ?_⟩
  · rintro ⟨ss, h⟩
    exact (isOrder_of_order h).isNumbered
  · have hs := isOrder_of_order h
    exact ⟨hs, fun ts ht => ht.unique hs⟩
  · cases hp : order paths with
    | ok ss =>
        have hs := (isOrder_of_order hp).of_perm hperm
        obtain ⟨ts, hq⟩ := hs.isNumbered.exists_order
        exact .inl ⟨ss, rfl, by rw [hq, hs.unique (isOrder_of_order hq)]⟩
    | error e =>
        refine .inr ?_
        cases hq : order qs with
        | ok ts =>
            have ht := (isOrder_of_order hq).of_perm hperm.symm
            exact absurd (isFault_of_order hp) ht.not_isFault
        | error e' => exact ⟨e, e', rfl, rfl⟩

end RecordingIndex.Segment
