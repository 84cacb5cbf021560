import Mathlib.Algebra.Order.BigOperators.Group.List
import Mathlib.Algebra.Order.Group.Nat
import RecordingIndex.Proofs.FileSystem.Removal
import RecordingIndex.Proofs.Metadata
import RecordingIndex.Reindex.Reconcile

/-!
# Proofs — Reindex — the size of a recording

The size of a recording is the sum of the sizes of the files that its list leads to, clamped once
(`totals_finalize`).  So neither the size it had before nor the order of the list matters, and
removing a file never makes it larger.
-/

namespace RecordingIndex.Reindex

variable {fs fs' : FileSystem} {dir p : Path} {m r : Metadata} {name : String}

/-! ### The size of one file -/

/-- The path that a listed name stands for: an absolute one for itself, another from the
directory. -/
inductive StandsFor (dir : Path) (name : String) : Path → Prop where
  | absolute (absolute : (Path.ofString name).isAbsolute = true) :
      StandsFor dir name (.ofString name)
  | relative (relative : (Path.ofString name).isAbsolute = false) :
      StandsFor dir name ⟨dir.stem ++ Utf8.ofString name⟩

/-- The size that a listed name counts with: that of the regular file it leads to, or nothing. -/
inductive HasSize (fs : FileSystem) (dir : Path) (name : String) : Nat → Prop where
  | file {p : Path} {place : Location} {c : Contents} (path : StandsFor dir name p)
      (found : fs.stat p = .ok (place, .file c)) : HasSize fs dir name c.size
  | none {p : Path} (path : StandsFor dir name p)
      (unfound : ∀ place c, fs.stat p ≠ .ok (place, .file c)) : HasSize fs dir name 0

theorem standsFor_join (dir : Path) (name : String) :
    StandsFor dir name (dir.join (.ofString name)) := by
  rw [Path.join]
  split
  · next habsolute => exact .absolute habsolute
  next hrelative =>
  have hstands : StandsFor dir name ⟨dir.stem ++ Utf8.ofString name⟩ :=
    .relative (by simpa using hrelative)
  rw [Path.stem] at hstands
  split
  · next hstem => rwa [if_pos hstem] at hstands
  · next hstem =>
      rw [if_neg hstem, List.append_assoc] at hstands
      exact hstands

theorem hasSize_listedSize (fs : FileSystem) (dir : Path) (name : String) :
    HasSize fs dir name (listedSize fs dir name) := by
  rw [listedSize]
  split
  · next place c hfound => exact .file (standsFor_join dir name) hfound
  · next hno => exact .none (standsFor_join dir name) hno

/-- Removing a file makes no other one larger. -/
theorem listedSize_of_removeFile (h : fs.removeFile p = .ok fs') (dir : Path) (name : String) :
    listedSize fs' dir name ≤ listedSize fs dir name := by
  rcases FileSystem.stat_of_removeFile h (dir.join (.ofString name)) with heq | ⟨e, he⟩
  · rw [listedSize, listedSize, heq]
  · rw [listedSize, he]
    exact Nat.zero_le _

/-! ### The sum -/

/-- The size of a recording is the sum of the sizes of its files, clamped once. -/
theorem toNat_totalSize (fs : FileSystem) (dir : Path) (listed : List String) :
    (totalSize fs dir listed).toNat =
      min (listed.map (listedSize fs dir)).sum (UInt64.size - 1) := by
  rw [totalSize, toNat_foldl_saturatingAdd]
  simp

theorem totalSize_of_perm {names names' : List String} (h : names.Perm names') :
    totalSize fs dir names' = totalSize fs dir names := by
  rw [← UInt64.toNat_inj, toNat_totalSize, toNat_totalSize, (h.map _).sum_nat]

theorem totalSize_of_removeFile (h : fs.removeFile p = .ok fs') (names : List String) :
    totalSize fs' dir names ≤ totalSize fs dir names := by
  have hsum : (names.map (listedSize fs' dir)).sum ≤ (names.map (listedSize fs dir)).sum :=
    List.sum_le_sum fun name _ => listedSize_of_removeFile h dir name
  rw [UInt64.le_iff_toNat_le, toNat_totalSize, toNat_totalSize]
  omega

/-- The description `r` is `m` but for the size, which is what the list of `m` comes to. -/
structure Totals (fs : FileSystem) (dir : Path) (m r : Metadata) : Prop where
  size : ∃ sizes : List Nat, List.Forall₂ (HasSize fs dir) m.relativePaths sizes ∧
           r.bagSize.toNat = min (2 ^ 64 - 1) sizes.sum
  kept : r = { m with bagSize := r.bagSize }

theorem value_finalize (fs : FileSystem) (dir : Path) (m : Metadata) :
    (finalize fs dir m).value = finalized fs dir m := rfl

theorem totals_finalized (fs : FileSystem) (dir : Path) (m : Metadata) :
    Totals fs dir m (finalized fs dir m) where
  size := by
    refine ⟨m.relativePaths.map (listedSize fs dir), ?_, ?_⟩
    · rw [List.forall₂_map_right_iff, List.forall₂_same]
      exact fun name _ => hasSize_listedSize fs dir name
    · have hsize : UInt64.size = 2 ^ 64 := rfl
      rw [finalized, toNat_totalSize, hsize, Nat.min_comm]
  kept := rfl

/-- **The size of a recording** is what its list comes to, whatever the size was before and whatever
the order of the list.  Removing a file does not make it larger, and it stays when it is summed up
again. -/
theorem totals_finalize (fs : FileSystem) (dir : Path) (m : Metadata) :
    Totals fs dir m (finalize fs dir m).value ∧
      (∀ size, (finalize fs dir { m with bagSize := size }).value = (finalize fs dir m).value) ∧
      (∀ names, m.relativePaths.Perm names →
        (finalize fs dir { m with relativePaths := names }).value.bagSize =
          (finalize fs dir m).value.bagSize) ∧
      (∀ p fs', fs.removeFile p = .ok fs' →
        (finalize fs' dir m).value.bagSize ≤ (finalize fs dir m).value.bagSize) ∧
      (finalize fs dir (finalize fs dir m).value).value = (finalize fs dir m).value := by
  simp only [value_finalize]
  refine ⟨totals_finalized fs dir m, fun size => rfl, ?_, ?_, rfl⟩
  · exact fun names hperm => totalSize_of_perm hperm
  · exact fun p fs' hremoved => totalSize_of_removeFile hremoved m.relativePaths

end RecordingIndex.Reindex
