import Mathlib.Data.List.Forall2

/-!
# Proofs — results that may fail

A chain of steps succeeds exactly if each step does (`exists_of_bind`, `mapM_eq_ok_iff`).
-/

namespace RecordingIndex

variable {ε α β : Type}

theorem exists_of_bind {x : Except ε α} {f : α → Except ε β} {b : β} (h : x >>= f = .ok b) :
    ∃ a, x = .ok a ∧ f a = .ok b := by
  cases x with
  | error => cases h
  | ok a => exact ⟨a, rfl, h⟩

theorem bind_eq_ok_iff {x : Except ε α} {f : α → Except ε β} {b : β} :
    x >>= f = .ok b ↔ ∃ a, x = .ok a ∧ f a = .ok b := by
  constructor
  · exact exists_of_bind
  · rintro ⟨a, rfl, h⟩
    exact h

/-- A traversal succeeds with the results of its steps. -/
theorem mapM_eq_ok_iff {f : α → Except ε β} : ∀ {xs : List α} {ys : List β},
    xs.mapM f = .ok ys ↔ List.Forall₂ (fun x y => f x = .ok y) xs ys
  | [],      ys => by
      rw [List.forall₂_nil_left_iff, List.mapM_nil]
      constructor
      · rintro ⟨⟩
        rfl
      · rintro rfl
        rfl
  | x :: xs, ys => by
      rw [List.forall₂_cons_left_iff, List.mapM_cons]
      constructor
      · intro h
        obtain ⟨z, hz, h⟩ := exists_of_bind h
        obtain ⟨zs, hzs, h⟩ := exists_of_bind h
        exact ⟨z, zs, hz, mapM_eq_ok_iff.mp hzs, (Except.ok.inj h).symm⟩
      · rintro ⟨z, zs, hz, hzs, rfl⟩
        rw [hz, mapM_eq_ok_iff.mpr hzs]
        rfl

end RecordingIndex
