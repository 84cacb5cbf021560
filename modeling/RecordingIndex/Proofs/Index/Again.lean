import RecordingIndex.Proofs.FileSystem.Plain
import RecordingIndex.Proofs.Index.Store

/-!
# Proofs — Index — writing an index again

In a directory without links it depends on the subdirectories alone whether an index can be written
(`value_store`).  Once it is written, the directory is still there and without links, and writing
the same index again changes nothing (`store_again`).
-/

namespace RecordingIndex.Index

variable {fs : FileSystem} {dir : Path} {m : Metadata} {l : Location} {k : Nat}

/-! ### Directories without links -/

/-- Whether an index can be written, and the reason if not: its path is too long, or a directory
stands in the place of the draft or of the index. -/
def obstacle (dir : Path) (draft index : Bool) : Except String Unit :=
  if FileSystem.maxPath ≤ (draftPath dir).bytes.length then .error FileError.nameTooLong.message
  else if draft || index then .error FileError.isADirectory.message
  else .ok ()

theorem draftIsFile (hplain : fs.IsPlain l)
    (hdraft : fs.get? (l ++ [draftName]) ≠ some .directory) : DraftIsFile fs l := by
  intro e he
  cases e with
  | file c => exact ⟨c, rfl⟩
  | directory => exact absurd he hdraft
  | link t => exact absurd he (hplain draftName t)

/-- **Whether an index can be written** depends on the subdirectories alone. -/
theorem value_store (w : fs.Way dir l k) (hplain : fs.IsPlain l) (m : Metadata) :
    (store fs dir m).2 =
      obstacle dir (fs.get? (l ++ [draftName]) = some .directory)
        (fs.get? (l ++ [indexName]) = some .directory) := by
  have hdir := w.isDirectory
  rw [obstacle]
  by_cases hlong : FileSystem.maxPath ≤ (draftPath dir).bytes.length
  · rw [store_long hdir w hlong, if_pos hlong]
  have hshort := Nat.lt_of_not_le hlong
  rw [if_neg hlong]
  by_cases hdraft : fs.get? (l ++ [draftName]) = some .directory
  · rw [store_draftDirectory hdir w hshort hdraft, if_pos (by simp [hdraft])]
  by_cases hindex : fs.get? (l ++ [indexName]) = some .directory
  · rw [store_indexDirectory hdir w (draftIsFile hplain hdraft) hshort hindex,
      if_pos (by simp [hindex])]
  · rw [store_moved hdir w (draftIsFile hplain hdraft) hshort hindex,
      if_neg (by simp [hdraft, hindex])]

/-- The file system once the index is written. -/
def stored (fs : FileSystem) (l : Location) (m : Metadata) : FileSystem :=
  (drafted fs l m).move (l ++ [draftName]) (l ++ [indexName])

/-- The index of `dir` can be written: nothing but files stands in the two places, and their paths
are short enough. -/
structure CanStore (fs : FileSystem) (dir : Path) (l : Location) : Prop where
  draft : DraftIsFile fs l
  index : fs.get? (l ++ [indexName]) ≠ some .directory
  short : (draftPath dir).bytes.length < FileSystem.maxPath

theorem canStore_of_value (w : fs.Way dir l k) (hplain : fs.IsPlain l)
    (h : (store fs dir m).2 = .ok ()) : CanStore fs dir l := by
  rw [value_store w hplain, obstacle] at h
  split at h
  · cases h
  next hlong =>
  split at h
  · cases h
  next hdirs =>
  simp only [Bool.or_eq_true, decide_eq_true_eq, not_or] at hdirs
  exact ⟨draftIsFile hplain hdirs.1, hdirs.2, Nat.lt_of_not_le hlong⟩

theorem store_eq (w : fs.Way dir l k) (h : CanStore fs dir l) :
    store fs dir m = (stored fs l m, .ok ()) :=
  store_moved w.isDirectory w h.draft h.short h.index

/-! ### The directory afterwards -/

variable (htree : fs.IsTree) (w : fs.Way dir l k) (h : CanStore fs dir l)

include htree w h

theorem get?_stored (x : Location) :
    (stored fs l m).get? x =
      if x = l ++ [indexName] then some (.file (contents m))
      else if x = l ++ [draftName] then none else fs.get? x :=
  get?_moved htree w h.draft h.index x

theorem get?_stored_index :
    (stored fs l m).get? (l ++ [indexName]) = some (.file (contents m)) := by
  rw [get?_stored htree w h, if_pos rfl]

theorem isTree_stored : (stored fs l m).IsTree := by
  have hwrite : (write fs dir m).fileSystem.IsTree := isTree_fileSystem_write htree
  rwa [fileSystem_write, store_eq w h] at hwrite

theorem isPlain_stored (hplain : fs.IsPlain l) : (stored fs l m).IsPlain l := by
  intro n t hn
  rw [get?_stored htree w h] at hn
  split at hn
  · cases hn
  · split at hn
    · cases hn
    · exact hplain n t hn

omit htree w h in
@[simp] theorem refusals_stored : (stored fs l m).refusals = fs.refusals := by
  rw [stored, FileSystem.refusals_move, drafted, FileSystem.refusals_insert]

theorem way_stored (hplain : fs.IsPlain l) : (stored fs l m).Way dir l k := by
  refine w.mono ?_ fun x e hx he => ?_
  · rw [stored, FileSystem.cwd_move, drafted, FileSystem.cwd_insert]
  -- What is replaced or taken away is a file, and no way leads through files.
  · rw [get?_stored htree w h, if_neg ?_, if_neg ?_, hx]
    · rintro rfl
      obtain ⟨c, rfl⟩ := h.draft e hx
      exact he c rfl
    · rintro rfl
      cases e with
      | file c => exact he c rfl
      | directory => exact h.index hx
      | link t => exact hplain indexName t hx

theorem entries_stored :
    (stored fs l m).entries =
      (fs.entries.filter fun x => x.1 ≠ l ++ [indexName] ∧ x.1 ≠ l ++ [draftName]) ++
        [(l ++ [indexName], .file (contents m))] := by
  have hindex : (drafted fs l m).get? (l ++ [indexName]) ≠ some .directory := by
    rw [get?_drafted_index]
    exact h.index
  rw [stored, (isTree_drafted htree w h.draft).entries_move get?_drafted_draft (by simp) hindex,
    drafted, FileSystem.filter_entries_insert
      (q := fun x => x ≠ l ++ [indexName] ∧ x ≠ l ++ [draftName]) (by simp)]

/-- **Writing an index again** changes nothing. -/
theorem store_again (hplain : fs.IsPlain l) :
    store (stored fs l m) dir m = (stored fs l m, .ok ()) := by
  have htree' := isTree_stored (m := m) htree w h
  have w' := way_stored (m := m) htree w h hplain
  have h' : CanStore (stored fs l m) dir l := by
    refine ⟨fun e he => ?_, ?_, h.short⟩
    · rw [get?_stored htree w h, if_neg (by simp [draftName_ne_indexName]), if_pos rfl] at he
      cases he
    · rw [get?_stored_index htree w h]
      simp
  rw [store_eq w' h']
  refine congrArg (·, _) (FileSystem.eq_of_entries ?_ ?_ ?_)
  · rw [entries_stored htree' w' h', entries_stored htree w h, List.filter_append,
      List.filter_filter]
    simp
  · rw [stored, FileSystem.cwd_move, drafted, FileSystem.cwd_insert]
  · rw [refusals_stored]

end RecordingIndex.Index
