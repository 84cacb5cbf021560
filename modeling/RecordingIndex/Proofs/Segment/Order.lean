import RecordingIndex.Proofs.List
import RecordingIndex.Segment.Order

/-!
# Proofs — Segment — the order of a recording

What `Segment.order` gives (`IsOrder`): the same paths, each with the number in its name, by
strictly ascending numbers (`isOrder_of_order`).  It fails only over a name or over a number that
two names share (`kind_of_order`).
-/

namespace RecordingIndex.Segment

variable {seen ss : List Segment} {paths ps : List Path} {p : Path} {e : Failure}

/-! ### Numbering -/

theorem number_cons (h : number seen (p :: ps) = .ok ss) :
    ∃ id, idOf p = .ok id ∧ (∀ s ∈ seen, s.id ≠ id) ∧ number (⟨id, p⟩ :: seen) ps = .ok ss := by
  rw [number] at h
  split at h
  · cases h
  · next id hid =>
      split at h
      · cases h
      · next hfree =>
          refine ⟨id, hid, fun s hs => ?_, h⟩
          simpa using List.find?_eq_none.mp hfree s hs

theorem number_paths : ∀ {ps : List Path} {seen : List Segment},
    number seen ps = .ok ss → ss.map Segment.path = (seen.map Segment.path).reverse ++ ps
  | [],     seen, h => by
      cases h
      simp
  | p :: ps, seen, h => by
      obtain ⟨id, -, -, hps⟩ := number_cons h
      rw [number_paths hps]
      simp

theorem number_named : ∀ {ps : List Path} {seen : List Segment},
    number seen ps = .ok ss → (∀ s ∈ seen, idOf s.path = .ok s.id) →
      ∀ s ∈ ss, idOf s.path = .ok s.id
  | [],     seen, h, hseen => by
      cases h
      simpa using hseen
  | p :: ps, seen, h, hseen => by
      obtain ⟨id, hid, -, hps⟩ := number_cons h
      exact number_named hps (List.forall_mem_cons.mpr ⟨hid, hseen⟩)

theorem number_nodup : ∀ {ps : List Path} {seen : List Segment},
    number seen ps = .ok ss → (seen.map Segment.id).Nodup → (ss.map Segment.id).Nodup
  | [],     seen, h, hseen => by
      cases h
      rw [List.map_reverse]
      exact (List.reverse_perm _).nodup_iff.mpr hseen
  | p :: ps, seen, h, hseen => by
      obtain ⟨id, -, hfree, hps⟩ := number_cons h
      refine number_nodup hps (List.nodup_cons.mpr ⟨fun hmem => ?_, hseen⟩)
      obtain ⟨s, hs, hid⟩ := List.mem_map.mp hmem
      exact hfree s hs hid

/-! ### Order -/

@[simp] theorem order_nil : order [] = .ok [] := by
  simp [order, number, Except.map]

/-- The segments at the paths, numbered by their names and in the order of the numbers. -/
structure IsOrder (paths : List Path) (ss : List Segment) : Prop where
  perm      : (ss.map Segment.path).Perm paths
  named     : ∀ s ∈ ss, idOf s.path = .ok s.id
  ascending : ss.Pairwise fun s t => s.id < t.id

/-- **The order of a recording** loses no path, takes the numbers from the names and ascends. -/
theorem isOrder_of_order (h : order paths = .ok ss) : IsOrder paths ss := by
  rw [order] at h
  cases hn : number [] paths with
  | error e => rw [hn] at h; cases h
  | ok ts =>
      rw [hn] at h
      cases h
      have hperm := List.mergeSort_perm ts fun s t => decide (s.id ≤ t.id)
      refine ⟨?_, fun s hs => ?_, ?_⟩
      · have hpaths : ts.map Segment.path = paths := by simpa using number_paths hn
        exact hpaths ▸ hperm.map Segment.path
      · exact number_named hn (by simp) s (hperm.mem_iff.mp hs)
      · exact pairwise_lt_mergeSort (number_nodup hn List.nodup_nil)

theorem IsOrder.ne_nil (h : IsOrder paths ss) (hne : paths ≠ []) : ss ≠ [] := by
  rintro rfl
  exact hne (List.nil_perm.mp h.perm)

/-- The first segment in order has the lowest number. -/
theorem lowest_of_order {first : Segment} {rest : List Segment}
    (h : order paths = .ok (first :: rest)) :
    first.path ∈ paths ∧ idOf first.path = .ok first.id ∧
      ∀ q ∈ paths, q ≠ first.path → ∃ j, idOf q = .ok j ∧ first.id < j := by
  have horder := isOrder_of_order h
  refine ⟨horder.perm.mem_iff.mp (by simp), horder.named first (by simp), fun q hq hne => ?_⟩
  obtain ⟨s, hs, rfl⟩ := List.mem_map.mp (horder.perm.mem_iff.mpr hq)
  refine ⟨s.id, horder.named s hs, ?_⟩
  rcases List.mem_cons.mp hs with rfl | hrest
  · exact absurd rfl hne
  · exact List.rel_of_pairwise_cons horder.ascending hrest

/-! ### Failures -/

theorem eq_of_idOf (h : idOf p = .error e) : e = .malformedSegmentName p.fileNameLossy := by
  rw [idOf] at h
  split at h
  · cases h
  · cases h
    rfl

theorem kind_of_idOf (h : idOf p = .error e) : e.kind = .malformedSegmentName := by
  rw [eq_of_idOf h, Failure.kind]

theorem kind_duplicate (id : UInt64) (a b : String) :
    (duplicate id a b).kind = .duplicateSegmentId := by
  rw [duplicate]
  split <;> rfl

theorem kind_of_number : ∀ {ps : List Path} {seen : List Segment},
    number seen ps = .error e → e.kind = .malformedSegmentName ∨ e.kind = .duplicateSegmentId
  | [],      seen, h => by cases h
  | p :: ps, seen, h => by
      rw [number] at h
      split at h
      · next hid =>
          cases h
          exact .inl (kind_of_idOf hid)
      · split at h
        · cases h
          exact .inr (kind_duplicate _ _ _)
        · exact kind_of_number h

/-- Ordering fails over a malformed name or a number that two names share. -/
theorem kind_of_order (h : order paths = .error e) :
    e.kind = .malformedSegmentName ∨ e.kind = .duplicateSegmentId := by
  rw [order] at h
  cases hn : number [] paths with
  | error e' =>
      rw [hn] at h
      cases h
      exact kind_of_number hn
  | ok ts => rw [hn] at h; cases h

end RecordingIndex.Segment
