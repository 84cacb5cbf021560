import Mathlib.Data.List.Permutation
import RecordingIndex.Proofs.Segment.Fault

/-!
# Proofs — Segment — the fault complained about

The paths are read from the left.  A place *is faulty* (`IsFaultyAt`) if the name there is malformed
or has the number of an earlier one, and ordering complains about the first faulty place
(`complains_order`).  Which place that is depends on the order of the paths; what is said of it does
not, where there is one fault only (`OneFault`).
-/

namespace RecordingIndex.Segment

variable {paths before after : List Path} {p q : Path} {e : Failure} {id : UInt64} {i j : Nat}

/-! ### Places -/

/-- The name at the place `i` is malformed. -/
def IsMalformedAt (paths : List Path) (i : Nat) : Prop :=
  ∃ p e, paths[i]? = some p ∧ idOf p = .error e

/-- The names at the places `i` and `j`, in this order, have one number. -/
def ShareAt (paths : List Path) (i j : Nat) : Prop :=
  i < j ∧ ∃ p q id, paths[i]? = some p ∧ paths[j]? = some q ∧ idOf p = .ok id ∧ idOf q = .ok id

/-- The name at the place `i` is malformed or has the number of an earlier one. -/
def IsFaultyAt (paths : List Path) (i : Nat) : Prop :=
  IsMalformedAt paths i ∨ ∃ j, ShareAt paths j i

/-- What is said of a faulty place: its name, or the number with the two names that have it, the
lesser one first. -/
inductive ComplainsAt (paths : List Path) (i : Nat) : Failure → Prop where
  | malformed {p : Path} {e : Failure} (place : paths[i]? = some p) (malformed : idOf p = .error e) :
      ComplainsAt paths i (.malformedSegmentName p.fileNameLossy)
  | shared {p q : Path} {j : Nat} {id : UInt64} {first second : String}
      (place : paths[i]? = some p) (left : idOf p = .ok id)
      (before : j < i) (other : paths[j]? = some q) (right : idOf q = .ok id)
      (only : ∀ k r, k < i → paths[k]? = some r → idOf r = .ok id → k = j)
      (names : [first, second].Perm [q.fileNameLossy, p.fileNameLossy]) (sorted : first ≤ second) :
      ComplainsAt paths i (.duplicateSegmentId id first second)

/-- There is one malformed name and the others have different numbers, or there is no malformed name
and one pair has one number. -/
inductive OneFault (paths : List Path) : Prop where
  | malformed {i : Nat} (place : IsMalformedAt paths i) (only : ∀ j, IsMalformedAt paths j → j = i)
      (distinct : ∀ j k, ¬ShareAt paths j k)
  | shared {i j : Nat} (named : ∀ k, ¬IsMalformedAt paths k) (places : ShareAt paths i j)
      (only : ∀ k l, ShareAt paths k l → k = i ∧ l = j)

theorem IsNumbered.not_isMalformedAt (h : IsNumbered paths) : ¬IsMalformedAt paths i := by
  rintro ⟨p, e, hp, he⟩
  obtain ⟨id, hid⟩ := h.named p (List.mem_of_getElem? hp)
  cases he.symm.trans hid

theorem IsNumbered.not_shareAt (h : IsNumbered paths) : ¬ShareAt paths i j := by
  rintro ⟨hlt, p, q, id, hp, hq, hidp, hidq⟩
  obtain ⟨hi, rfl⟩ := List.getElem?_eq_some_iff.mp hp
  obtain ⟨hj, rfl⟩ := List.getElem?_eq_some_iff.mp hq
  exact List.pairwise_iff_getElem.mp h.distinct i j hi hj hlt (hidp.trans hidq.symm)

theorem IsNumbered.not_isFaultyAt (h : IsNumbered paths) : ¬IsFaultyAt paths i := by
  rintro (hmalformed | ⟨j, hshare⟩)
  · exact h.not_isMalformedAt hmalformed
  · exact h.not_shareAt hshare

/-- Whether a place is faulty does not depend on the paths behind it. -/
theorem IsFaultyAt.of_append (h : IsFaultyAt (before ++ after) i) (hi : i < before.length) :
    IsFaultyAt before i := by
  rcases h with ⟨p, e, hp, he⟩ | ⟨j, hlt, p, q, id, hp, hq, hid⟩
  · rw [List.getElem?_append_left hi] at hp
    exact .inl ⟨p, e, hp, he⟩
  · rw [List.getElem?_append_left (Nat.lt_trans hlt hi)] at hp
    rw [List.getElem?_append_left hi] at hq
    exact .inr ⟨j, hlt, p, q, id, hp, hq, hid⟩

/-! ### The first faulty place -/

theorem duplicate_cases (id : UInt64) (a b : String) :
    ∃ first second, duplicate id a b = .duplicateSegmentId id first second ∧
      [first, second].Perm [a, b] ∧ first ≤ second := by
  rw [duplicate]
  by_cases h : b < a
  · rw [if_pos h]
    exact ⟨b, a, rfl, .swap a b [], String.not_lt.mp (String.lt_asymm h)⟩
  · rw [if_neg h]
    exact ⟨a, b, rfl, .refl _, String.not_lt.mp h⟩

theorem Complains.complainsAt (h : Complains before p e) (hnumbered : IsNumbered before) :
    ComplainsAt (before ++ p :: after) before.length e := by
  have hplace : (before ++ p :: after)[before.length]? = some p := by simp
  cases h with
  | malformed malformed => exact .malformed hplace malformed
  | @shared q id mem left right =>
      obtain ⟨j, hj, hother⟩ := List.getElem_of_mem mem
      have hother : before[j]? = some q := List.getElem?_eq_some_iff.mpr ⟨hj, hother⟩
      have honly : ∀ k r, k < before.length → (before ++ p :: after)[k]? = some r →
          idOf r = .ok id → k = j := by
        intro k r hk hr hid
        rw [List.getElem?_append_left hk] at hr
        rcases Nat.lt_trichotomy k j with hkj | hkj | hjk
        · exact absurd ⟨hkj, r, q, id, hr, hother, hid, left⟩ hnumbered.not_shareAt
        · exact hkj
        · exact absurd ⟨hjk, q, r, id, hother, hr, left, hid⟩ hnumbered.not_shareAt
      obtain ⟨first, second, heq, hnames, hsorted⟩ :=
        duplicate_cases id q.fileNameLossy p.fileNameLossy
      rw [heq]
      exact .shared hplace right hj ((List.getElem?_append_left hj).trans hother) left honly
        hnames hsorted

/-- The complaint is about the first faulty place. -/
theorem exists_complainsAt (h : order paths = .error e) :
    ∃ i, IsFaultyAt paths i ∧ (∀ k < i, ¬IsFaultyAt paths k) ∧ ComplainsAt paths i e := by
  obtain ⟨before, p, after, rfl, hnumbered, hcomplains⟩ := exists_complains_of_order h
  have hat : ComplainsAt (before ++ p :: after) before.length e :=
    hcomplains.complainsAt hnumbered
  refine ⟨before.length, ?_, fun k hk hfaulty => ?_, hat⟩
  · cases hat with
    | malformed place malformed => exact .inl ⟨_, _, place, malformed⟩
    | shared place left before other right =>
        exact .inr ⟨_, before, _, _, _, other, place, right, left⟩
  · exact hnumbered.not_isFaultyAt (hfaulty.of_append hk)

/-! ### One fault -/

/-- Paths that share a number stand at two places. -/
theorem Share.exists_shareAt (h : Share paths p q id) :
    ∃ i j, ShareAt paths i j ∧
      ((paths[i]? = some p ∧ paths[j]? = some q) ∨ (paths[i]? = some q ∧ paths[j]? = some p)) := by
  obtain ⟨xs, hperm, hsub⟩ := h.subperm
  rcases List.perm_pair.mp hperm with rfl | rfl
  · obtain ⟨i, j, hlt, hi, hj⟩ := exists_getElem?_of_sublist hsub
    exact ⟨i, j, ⟨hlt, p, q, id, hi, hj, h.left, h.right⟩, .inl ⟨hi, hj⟩⟩
  · obtain ⟨i, j, hlt, hi, hj⟩ := exists_getElem?_of_sublist hsub
    exact ⟨i, j, ⟨hlt, q, p, id, hi, hj, h.right, h.left⟩, .inr ⟨hi, hj⟩⟩

theorem OneFault.not_isNumbered (h : OneFault paths) : ¬IsNumbered paths := by
  intro hnumbered
  cases h with
  | malformed place => exact hnumbered.not_isMalformedAt place
  | shared _ places => exact hnumbered.not_shareAt places

theorem OneFault.atMostOneFault (h : OneFault paths) : AtMostOneFault paths := by
  have hmalformed : ∀ p ∈ paths, ∀ e, idOf p = .error e →
      ∃ i, paths[i]? = some p ∧ IsMalformedAt paths i := by
    intro p hp e he
    obtain ⟨i, hi, rfl⟩ := List.getElem_of_mem hp
    have hplace : paths[i]? = some paths[i] := List.getElem?_eq_some_iff.mpr ⟨hi, rfl⟩
    exact ⟨i, hplace, paths[i], e, hplace, he⟩
  cases h with
  | @malformed i place only distinct =>
      constructor
      case malformed =>
        intro p hp q hq e e' he he'
        obtain ⟨j, hj, hjp⟩ := hmalformed p hp e he
        obtain ⟨k, hk, hkq⟩ := hmalformed q hq e' he'
        rw [only j hjp] at hj
        rw [only k hkq] at hk
        exact Option.some.inj (hj.symm.trans hk)
      case shared =>
        intro p q id p' q' id' hshare
        obtain ⟨j, k, hjk, -⟩ := hshare.exists_shareAt
        exact absurd hjk (distinct j k)
      case exclusive =>
        intro p _ e _ q q' id hshare
        obtain ⟨j, k, hjk, -⟩ := hshare.exists_shareAt
        exact distinct j k hjk
  | @shared i j named places only =>
      constructor
      case malformed =>
        intro p hp q hq e e' he
        obtain ⟨k, -, hk⟩ := hmalformed p hp e he
        exact absurd hk (named k)
      case shared =>
        intro p q id p' q' id' hshare hshare'
        obtain ⟨k, l, hkl, hpq⟩ := hshare.exists_shareAt
        obtain ⟨k', l', hkl', hpq'⟩ := hshare'.exists_shareAt
        obtain ⟨rfl, rfl⟩ := only k l hkl
        obtain ⟨rfl, rfl⟩ := only k' l' hkl'
        rcases hpq with ⟨hp, hq⟩ | ⟨hq, hp⟩ <;> rcases hpq' with ⟨hp', hq'⟩ | ⟨hq', hp'⟩
        · exact .inl ⟨Option.some.inj (hp.symm.trans hp'), Option.some.inj (hq.symm.trans hq')⟩
        · exact .inr ⟨Option.some.inj (hp.symm.trans hq'), Option.some.inj (hq.symm.trans hp')⟩
        · exact .inr ⟨Option.some.inj (hp.symm.trans hq'), Option.some.inj (hq.symm.trans hp')⟩
        · exact .inl ⟨Option.some.inj (hp.symm.trans hp'), Option.some.inj (hq.symm.trans hq')⟩
      case exclusive =>
        intro p hp e he
        obtain ⟨k, -, hk⟩ := hmalformed p hp e he
        exact absurd hk (named k)

/-- **A complaint** is about the first faulty place; it is the same for every order of the paths if
there is one fault only. -/
theorem complains_order (paths : List Path) :
    (∀ e, order paths = .error e →
      ∃ i, IsFaultyAt paths i ∧ (∀ k < i, ¬IsFaultyAt paths k) ∧ ComplainsAt paths i e) ∧
      (OneFault paths → ∃ e, ∀ qs, paths.Perm qs → order qs = .error e) := by
  refine ⟨fun e => exists_complainsAt, fun hfault => ?_⟩
  cases horder : order paths with
  | ok ss => exact absurd (isOrder_of_order horder).isNumbered hfault.not_isNumbered
  | error e =>
      refine ⟨e, fun qs hperm => ?_⟩
      rw [← order_eq_of_perm hperm hfault.atMostOneFault, horder]

/-! ### Two spellings of one number -/

namespace Sample

/-- Three paths, of which the last two have the number one. -/
def spellings : List Path := [.ofString "a_2.db3", .ofString "c_1.db3", .ofString "b_01.db3"]

theorem oneFault_spellings : OneFault spellings := by
  have hfirst : idOf (.ofString "a_2.db3") = .ok 2 := rfl
  have hsecond : idOf (.ofString "c_1.db3") = .ok 1 := rfl
  have hthird : idOf (.ofString "b_01.db3") = .ok 1 := rfl
  refine .shared (i := 1) (j := 2) ?_ ⟨by decide, _, _, 1, rfl, rfl, hsecond, hthird⟩ ?_
  · rintro k ⟨p, e, hp, he⟩
    have hmem := List.mem_of_getElem? hp
    simp only [spellings, List.mem_cons, List.not_mem_nil, or_false] at hmem
    rcases hmem with rfl | rfl | rfl
    · cases hfirst.symm.trans he
    · cases hsecond.symm.trans he
    · cases hthird.symm.trans he
  · rintro k l ⟨hlt, p, q, id, hp, hq, hidp, hidq⟩
    have hl : l < 3 := (List.getElem?_eq_some_iff.mp hq).1
    -- The first path has a number of its own.
    have hk : k ≠ 0 := by
      rintro rfl
      cases hp
      cases hfirst.symm.trans hidp
      obtain rfl | rfl : l = 1 ∨ l = 2 := by omega
      · cases hq
        cases hsecond.symm.trans hidq
      · cases hq
        cases hthird.symm.trans hidq
    omega

end Sample

theorem complains_order_spellings : OneFault Sample.spellings ∧
    ∀ qs, Sample.spellings.Perm qs →
      order qs = .error (.duplicateSegmentId 1 "b_01.db3" "c_1.db3") := by
  refine ⟨Sample.oneFault_spellings, fun qs hperm => ?_⟩
  obtain ⟨e, he⟩ := (complains_order Sample.spellings).2 Sample.oneFault_spellings
  have hfirst : order Sample.spellings = .error (.duplicateSegmentId 1 "b_01.db3" "c_1.db3") := rfl
  rw [he qs hperm, ← he _ (.refl _), hfirst]

end RecordingIndex.Segment
