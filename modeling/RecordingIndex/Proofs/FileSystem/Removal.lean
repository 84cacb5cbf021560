import RecordingIndex.Proofs.FileSystem.Frame

/-!
# Proofs — FileSystem — what is found once a file is removed

Where a file or a link is taken away, a walk either meets it, and then leads nowhere, or goes as it
went before (`walk_erase`).  So what a path leads to stays what it is or is lost (`stat_erase`).
-/

namespace RecordingIndex.FileSystem

open RecordingIndex.Path (Step)

variable {fs fs' : FileSystem} {l : Location} {p : Path}

/-- The walk leads to nothing that stands there. -/
def Misses (r : Except FileError Found) : Prop := ∀ place e, r ≠ .ok (.entry place e)

theorem get?_erase_eq_directory_iff (hl : fs.get? l ≠ some .directory) {here : Location} :
    (fs.erase l).get? here = some .directory ↔ fs.get? here = some .directory := by
  have hnil : l ≠ [] := fun hnil => hl (hnil ▸ get?_nil fs)
  rw [get?_erase hnil]
  by_cases hhere : here = l
  · simp [hhere, hl]
  · rw [if_neg hhere]

/-- **A walk** goes as before or leads nowhere.  By induction on the links that may be followed and
the steps. -/
theorem walk_erase (hl : fs.get? l ≠ some .directory) : ∀ (k : Nat) (steps : List Step)
    (here : Location),
    (fs.erase l).walk .look k here steps = fs.walk .look k here steps ∨
      Misses ((fs.erase l).walk .look k here steps)
  | k, [],        here => by
      have hnil : l ≠ [] := fun hnil => hl (hnil ▸ get?_nil fs)
      rw [walk_eq, walk_eq, walkWith, walkWith, get?_erase hnil]
      by_cases hhere : here = l
      · right
        simp [hhere, Misses]
      · left
        rw [if_neg hhere]
  | k, s :: rest, here => by
      have hnil : l ≠ [] := fun hnil => hl (hnil ▸ get?_nil fs)
      by_cases dir : fs.get? here = some .directory
      case neg =>
        have dir' : (fs.erase l).get? here ≠ some .directory :=
          fun h => dir ((get?_erase_eq_directory_iff hl).mp h)
        left
        cases s <;> simp [walk_eq, walkWith, dir, dir']
      have dir' := (get?_erase_eq_directory_iff hl).mpr dir
      cases step : aside? here s with
      | some next =>
          rw [walk_aside step, walk_aside step, if_pos dir, if_pos dir']
          exact walk_erase hl k rest next
      | none =>
      cases s with
      | up | stay | close => cases step
      | enter n =>
      by_cases length : n.length ≤ maxName
      case neg =>
        left
        simp [walk_eq, walkWith, dir, dir', Nat.lt_of_not_le length]
      rw [walk_enter dir length (by simp), walk_enter dir' length (by simp), get?_erase hnil]
      by_cases hplace : here ++ [n] = l
      -- The name is that of what was taken away.
      · right
        rw [if_pos hplace]
        by_cases hrest : rest = [] <;> simp [hrest, Misses]
      rw [if_neg hplace]
      cases entry : fs.get? (here ++ [n]) with
      | none => exact .inl rfl
      | some e =>
      cases e with
      | directory | file => exact walk_erase hl k rest (here ++ [n])
      | link t =>
          simp only [reduceCtorEq, and_false, if_false]
          cases k with
          | zero => exact .inl rfl
          | succ k => exact walk_erase hl k _ _
termination_by k steps => (k, steps.length)

/-- **What a path leads to** stays what it is, or is lost, when a file or a link is taken away. -/
theorem stat_erase (hl : fs.get? l ≠ some .directory) (p : Path) :
    (fs.erase l).stat p = fs.stat p ∨ ∃ e, (fs.erase l).stat p = .error e := by
  have hresolve : (fs.erase l).resolve .look p = fs.resolve .look p ∨
      Misses ((fs.erase l).resolve .look p) := by
    rw [resolve, resolve, cwd_erase]
    split
    · exact .inl rfl
    split
    · exact .inl rfl
    split
    · exact .inl rfl
    · exact walk_erase hl _ _ _
  rcases hresolve with heq | hmiss
  · left
    rw [stat, stat, heq]
  · right
    rw [stat]
    split
    · next place e h => exact absurd h (hmiss place e)
    · exact ⟨_, rfl⟩
    · exact ⟨_, rfl⟩

/-- The same holds of removing by a path. -/
theorem stat_of_removeFile {q : Path} (h : fs.removeFile q = .ok fs') (p : Path) :
    fs'.stat p = fs.stat p ∨ ∃ e, fs'.stat p = .error e := by
  obtain ⟨l, e, found, hne, rfl⟩ := exists_place_of_removeFile h
  have hl : fs.get? l = some e := lands_resolve found
  exact stat_erase (by simpa [hl] using hne) p

end RecordingIndex.FileSystem
