import RecordingIndex.Index.File
import RecordingIndex.Proofs.FileSystem.Change
import RecordingIndex.Proofs.Index.RoundTrip
import RecordingIndex.Proofs.Text.Utf8

/-!
# Proofs — Index — storing an index

Storing the index of a directory touches nothing, or writes a draft and takes it back, or writes it
and moves it into the place of the index (`Stores`).  Where it is moved, the place of the index holds
the whole text and nothing else is changed (`isStored_moved`).
-/

namespace RecordingIndex.Index

variable {fs : FileSystem} {dir : Path} {m : Metadata} {l : Location} {k : Nat}

/-! ### The two names -/

/-- The name of the index in the directory of a recording. -/
def indexName : Bytes := Utf8.ofString Metadata.fileName

/-- The name of an index that is being written. -/
def draftName : Bytes := Utf8.ofString "metadata.yaml.tmp"

theorem isName_indexName : Path.IsName indexName := by decide

theorem isName_draftName : Path.IsName draftName := by decide

theorem draftName_ne_indexName : draftName ≠ indexName := by decide

theorem path_eq (dir : Path) : path dir = dir.child indexName := rfl

theorem draftPath_eq (dir : Path) : draftPath dir = dir.child draftName :=
  Path.withExtension_child isName_indexName (by decide) isName_draftName

theorem length_path_le (dir : Path) : (path dir).bytes.length ≤ (draftPath dir).bytes.length := by
  rw [path_eq, draftPath_eq, Path.child_bytes isName_indexName, Path.child_bytes isName_draftName,
    List.length_append, List.length_append]
  have hlength : indexName.length ≤ draftName.length := by decide
  omega

theorem resolve_path {purpose : Purpose} (w : fs.Way dir l k)
    (hshort : (draftPath dir).bytes.length < FileSystem.maxPath) :
    fs.resolve purpose (path dir) = fs.underName purpose k l indexName := by
  have hlength := length_path_le dir
  rw [path_eq, w.resolve_child isName_indexName (by decide) (by decide), ← path_eq,
    if_neg (by omega)]

theorem resolve_draftPath {purpose : Purpose} (w : fs.Way dir l k)
    (hshort : (draftPath dir).bytes.length < FileSystem.maxPath) :
    fs.resolve purpose (draftPath dir) = fs.underName purpose k l draftName := by
  rw [draftPath_eq] at hshort ⊢
  rw [w.resolve_child isName_draftName (by decide) (by decide), if_neg (by omega)]

/-- No draft is written where its path is too long. -/
theorem resolve_draftPath_long {purpose : Purpose} (w : fs.Way dir l k)
    (hlong : FileSystem.maxPath ≤ (draftPath dir).bytes.length) :
    fs.resolve purpose (draftPath dir) = .error .nameTooLong := by
  rw [draftPath_eq] at hlong ⊢
  rw [w.resolve_child isName_draftName (by decide) (by decide), if_pos hlong]

/-! ### The draft -/

/-- Nothing but a file stands in the place of the draft. -/
def DraftIsFile (fs : FileSystem) (l : Location) : Prop :=
  ∀ e, fs.get? (l ++ [draftName]) = some e → ∃ c, e = .file c

/-- The file system with the draft. -/
def drafted (fs : FileSystem) (l : Location) (m : Metadata) : FileSystem :=
  fs.insert (l ++ [draftName]) (.file (contents m))

theorem get?_drafted {x : Location} :
    (drafted fs l m).get? x =
      if x = l ++ [draftName] then some (.file (contents m)) else fs.get? x :=
  FileSystem.get?_insert (by simp)

theorem get?_drafted_draft :
    (drafted fs l m).get? (l ++ [draftName]) = some (.file (contents m)) := by
  rw [get?_drafted, if_pos rfl]

theorem get?_drafted_index :
    (drafted fs l m).get? (l ++ [indexName]) = fs.get? (l ++ [indexName]) := by
  rw [get?_drafted, if_neg (by simp [draftName_ne_indexName.symm])]

theorem write_draft (w : fs.Way dir l k) (hdraft : DraftIsFile fs l)
    (hshort : (draftPath dir).bytes.length < FileSystem.maxPath) :
    fs.write (draftPath dir) (contents m) = .ok (drafted fs l m) := by
  rw [FileSystem.write, resolve_draftPath w hshort]
  cases hentry : fs.get? (l ++ [draftName]) with
  | none => rw [FileSystem.underName_free hentry]; rfl
  | some e =>
      obtain ⟨c, rfl⟩ := hdraft e hentry
      rw [FileSystem.underName_entry hentry (by simp)]
      rfl

theorem way_drafted (w : fs.Way dir l k) (hdraft : DraftIsFile fs l) :
    (drafted fs l m).Way dir l k := by
  refine w.mono (FileSystem.cwd_insert _ _ _) ?_
  intro x e hx he
  rw [get?_drafted, if_neg fun hxd : x = l ++ [draftName] => ?_]
  · exact hx
  · obtain ⟨c, hc⟩ := hdraft e (hxd ▸ hx)
    exact he c hc

theorem isTree_drafted (htree : fs.IsTree) (w : fs.Way dir l k) (hdraft : DraftIsFile fs l) :
    (drafted fs l m).IsTree :=
  htree.insert w.directory isName_draftName fun hd => by
    obtain ⟨c, hc⟩ := hdraft _ hd
    cases hc

/-- A draft that is a file is removed. -/
theorem discard_of_file {c : Contents} (w : fs.Way dir l k)
    (hdraft : fs.get? (l ++ [draftName]) = some (.file c))
    (hshort : (draftPath dir).bytes.length < FileSystem.maxPath) :
    discard fs (draftPath dir) = fs.erase (l ++ [draftName]) := by
  have hresolve : ∀ purpose, fs.resolve purpose (draftPath dir) =
      .ok (.entry (l ++ [draftName]) (.file c)) := by
    intro purpose
    rw [resolve_draftPath w hshort, FileSystem.underName_entry hdraft (by simp)]
  have hisFile : fs.isFile (draftPath dir) = true := by
    rw [FileSystem.isFile, FileSystem.stat, hresolve]
  rw [discard, if_pos hisFile, FileSystem.removeFile, hresolve]
  rfl

/-- What is no file is left alone. -/
theorem discard_of_error {e : FileError} {p : Path} (h : fs.stat p = .error e) :
    discard fs p = fs := by
  rw [discard, if_neg (by simp [FileSystem.isFile, h])]

theorem discard_of_directory {p : Path} (h : fs.stat p = .ok (l, .directory)) :
    discard fs p = fs := by
  rw [discard, if_neg (by simp [FileSystem.isFile, h])]

/-! ### The renaming -/

theorem rename_draft (w : fs.Way dir l k) (hdraft : DraftIsFile fs l)
    (hshort : (draftPath dir).bytes.length < FileSystem.maxPath)
    (hindex : fs.get? (l ++ [indexName]) ≠ some .directory) :
    (drafted fs l m).rename (draftPath dir) (path dir) =
      .ok ((drafted fs l m).move (l ++ [draftName]) (l ++ [indexName])) := by
  have w' := way_drafted (m := m) w hdraft
  rw [FileSystem.rename, resolve_draftPath w' hshort, resolve_path w' hshort,
    FileSystem.underName_lookAtLink get?_drafted_draft]
  cases hentry : fs.get? (l ++ [indexName]) with
  | none =>
      rw [FileSystem.underName_free (get?_drafted_index.trans hentry)]
      rfl
  | some e =>
      have he : e ≠ .directory := fun hd => hindex (hd ▸ hentry)
      rw [FileSystem.underName_lookAtLink (get?_drafted_index.trans hentry)]
      simp [bind, Except.bind, he, draftName_ne_indexName]

theorem rename_draft_directory (w : fs.Way dir l k) (hdraft : DraftIsFile fs l)
    (hshort : (draftPath dir).bytes.length < FileSystem.maxPath)
    (hindex : fs.get? (l ++ [indexName]) = some .directory) :
    (drafted fs l m).rename (draftPath dir) (path dir) = .error .isADirectory := by
  have w' := way_drafted (m := m) w hdraft
  have hprefix : (l ++ [indexName]).isPrefixOf (l ++ [draftName]) = false := by
    rw [Bool.eq_false_iff, Ne, List.isPrefixOf_iff_prefix, List.prefix_append_right_inj]
    simp [draftName_ne_indexName.symm]
  rw [FileSystem.rename, resolve_draftPath w' hshort, resolve_path w' hshort,
    FileSystem.underName_lookAtLink get?_drafted_draft,
    FileSystem.underName_lookAtLink (get?_drafted_index.trans hindex)]
  simp [bind, Except.bind, draftName_ne_indexName, hprefix]

/-! ### Storing -/

/-- What storing leaves and comes to: nothing is touched, or the draft is written and taken back, or
it is written and moved into the place of the index. -/
inductive Stores (fs : FileSystem) (dir : Path) (m : Metadata) :
    FileSystem → Except String Unit → Prop where
  | untouched (reason : String) : Stores fs dir m fs (.error reason)
  | withdrawn {l : Location} {k : Nat} (reason : String)
      (way : fs.Way dir l k) (draft : DraftIsFile fs l)
      (short : (draftPath dir).bytes.length < FileSystem.maxPath)
      (index : fs.get? (l ++ [indexName]) = some .directory) :
      Stores fs dir m ((drafted fs l m).erase (l ++ [draftName])) (.error reason)
  | moved {l : Location} {k : Nat}
      (way : fs.Way dir l k) (draft : DraftIsFile fs l)
      (short : (draftPath dir).bytes.length < FileSystem.maxPath)
      (index : fs.get? (l ++ [indexName]) ≠ some .directory) :
      Stores fs dir m ((drafted fs l m).move (l ++ [draftName]) (l ++ [indexName])) (.ok ())

section

variable {fs' fs'' : FileSystem} {e : FileError} (hdir : fs.isDirectory dir = true)

include hdir

theorem store_of_write_error (hwrite : fs.write (draftPath dir) (contents m) = .error e)
    (hdiscard : discard fs (draftPath dir) = fs) : store fs dir m = (fs, .error e.message) := by
  simp [store, hdir, hwrite, hdiscard]

theorem store_of_rename_error (hwrite : fs.write (draftPath dir) (contents m) = .ok fs')
    (hrename : fs'.rename (draftPath dir) (path dir) = .error e) :
    store fs dir m = (discard fs' (draftPath dir), .error e.message) := by
  simp [store, hdir, hwrite, hrename]

theorem store_of_rename (hwrite : fs.write (draftPath dir) (contents m) = .ok fs')
    (hrename : fs'.rename (draftPath dir) (path dir) = .ok fs'') :
    store fs dir m = (fs'', .ok ()) := by
  simp [store, hdir, hwrite, hrename]

/-- Where no draft fits, nothing is touched. -/
theorem store_long (w : fs.Way dir l k)
    (hlong : FileSystem.maxPath ≤ (draftPath dir).bytes.length) :
    store fs dir m = (fs, .error FileError.nameTooLong.message) := by
  have hresolve : ∀ purpose, fs.resolve purpose (draftPath dir) = .error .nameTooLong :=
    fun _ => resolve_draftPath_long w hlong
  refine store_of_write_error hdir ?_ (discard_of_error (by rw [FileSystem.stat, hresolve]))
  simp only [FileSystem.write, hresolve]

/-- Where a directory stands in the place of the draft, it stays there. -/
theorem store_draftDirectory (w : fs.Way dir l k)
    (hshort : (draftPath dir).bytes.length < FileSystem.maxPath)
    (hdraft : fs.get? (l ++ [draftName]) = some .directory) :
    store fs dir m = (fs, .error FileError.isADirectory.message) := by
  have hresolve : ∀ purpose, fs.resolve purpose (draftPath dir) =
      .ok (.entry (l ++ [draftName]) .directory) := by
    intro purpose
    rw [resolve_draftPath w hshort, FileSystem.underName_entry hdraft (by simp)]
  refine store_of_write_error hdir ?_ (discard_of_directory (by rw [FileSystem.stat, hresolve]))
  simp only [FileSystem.write, hresolve]

/-- Where a directory stands in the place of the index, the draft is taken back. -/
theorem store_indexDirectory (w : fs.Way dir l k) (hdraft : DraftIsFile fs l)
    (hshort : (draftPath dir).bytes.length < FileSystem.maxPath)
    (hindex : fs.get? (l ++ [indexName]) = some .directory) :
    store fs dir m =
      ((drafted fs l m).erase (l ++ [draftName]), .error FileError.isADirectory.message) := by
  rw [store_of_rename_error hdir (write_draft w hdraft hshort)
    (rename_draft_directory w hdraft hshort hindex),
    discard_of_file (way_drafted w hdraft) get?_drafted_draft hshort]

/-- Everywhere else the draft is moved into the place of the index. -/
theorem store_moved (w : fs.Way dir l k) (hdraft : DraftIsFile fs l)
    (hshort : (draftPath dir).bytes.length < FileSystem.maxPath)
    (hindex : fs.get? (l ++ [indexName]) ≠ some .directory) :
    store fs dir m = ((drafted fs l m).move (l ++ [draftName]) (l ++ [indexName]), .ok ()) :=
  store_of_rename hdir (write_draft w hdraft hshort) (rename_draft w hdraft hshort hindex)

end

theorem stores_store (fs : FileSystem) (dir : Path) (m : Metadata)
    (hlink : ∀ l t, fs.resolve .lookAtLink (draftPath dir) ≠ .ok (.entry l (.link t))) :
    Stores fs dir m (store fs dir m).1 (store fs dir m).2 := by
  by_cases hdir : fs.isDirectory dir = true
  case neg =>
    rw [store, if_pos (by simpa using hdir)]
    exact .untouched _
  obtain ⟨l, hstat⟩ := FileSystem.exists_of_isDirectory hdir
  obtain ⟨k, way⟩ := FileSystem.exists_way hstat
  rcases Nat.lt_or_ge (draftPath dir).bytes.length FileSystem.maxPath with short | long
  case inr =>
    rw [store_long hdir way long]
    exact .untouched _
  by_cases hdraft : fs.get? (l ++ [draftName]) = some .directory
  case pos =>
    rw [store_draftDirectory hdir way short hdraft]
    exact .untouched _
  -- What stands in the place of the draft is neither a directory nor a link.
  have draft : DraftIsFile fs l := by
    intro e he
    cases e with
    | file c => exact ⟨c, rfl⟩
    | directory => exact absurd he hdraft
    | link t =>
        refine absurd ?_ (hlink (l ++ [draftName]) t)
        rw [resolve_draftPath way short, FileSystem.underName_lookAtLink he]
  by_cases index : fs.get? (l ++ [indexName]) = some .directory
  · rw [store_indexDirectory hdir way draft short index]
    exact .withdrawn _ way draft short index
  · rw [store_moved hdir way draft short index]
    exact .moved way draft short index

/-! ### All or nothing -/

/-- In the directory at `l` stands the index of `m` and no draft; nothing else is changed, and the
index is read back unless `dir` leads through what it replaced: then nothing is found under `dir`
any more. -/
structure IsStored (fs fs' : FileSystem) (dir : Path) (m : Metadata) (l : Location) : Prop where
  directory : fs.stat dir = .ok (l, .directory)
  index     : fs'.get? (l ++ [indexName]) = some (.file (.ofText (text m)))
  draft     : fs'.get? (l ++ [draftName]) = none
  others    : ∀ x, x ≠ l ++ [indexName] → x ≠ l ++ [draftName] → fs'.get? x = fs.get? x
  read      : read fs' dir =
    if (fs.erase (l ++ [indexName])).stat dir = fs.stat dir then .ok m
    else .error (.io .notADirectory)

/-- Nothing is changed, but for a draft that may be gone. -/
def IsKept (fs fs' : FileSystem) (dir : Path) : Prop :=
  fs' = fs ∨
    ∃ l, fs.stat dir = .ok (l, .directory) ∧ fs'.get? (l ++ [draftName]) = none ∧
      ∀ x, x ≠ l ++ [draftName] → fs'.get? x = fs.get? x

theorem IsKept.get?_eq {fs' : FileSystem} {x : Location} (h : IsKept fs fs' dir)
    (w : fs.Way dir l k) (hx : x ≠ l ++ [draftName]) : fs'.get? x = fs.get? x := by
  rcases h with rfl | ⟨l', hl', -, hsame⟩
  · rfl
  · cases hl'.symm.trans w.stat
    exact hsame x hx

theorem isKept_withdrawn (w : fs.Way dir l k) (c : Contents) :
    IsKept fs ((fs.insert (l ++ [draftName]) (.file c)).erase (l ++ [draftName])) dir := by
  refine .inr ⟨l, w.stat, ?_, fun x hx => ?_⟩
  · rw [FileSystem.get?_erase (by simp), if_pos rfl]
  · rw [FileSystem.get?_erase (by simp), if_neg hx, FileSystem.get?_insert (by simp), if_neg hx]

theorem get?_moved (htree : fs.IsTree) (w : fs.Way dir l k) (hdraft : DraftIsFile fs l)
    (hindex : fs.get? (l ++ [indexName]) ≠ some .directory) (x : Location) :
    ((drafted fs l m).move (l ++ [draftName]) (l ++ [indexName])).get? x =
      if x = l ++ [indexName] then some (.file (contents m))
      else if x = l ++ [draftName] then none else fs.get? x := by
  rw [(isTree_drafted htree w hdraft).get?_move_of_ne get?_drafted_draft (by simp)
    (by rwa [get?_drafted_index]), get?_drafted]
  by_cases hx : x = l ++ [draftName] <;> simp [hx]

/-- The index is read back where the directory is still reached. -/
theorem read_of_way (w : fs.Way dir l k)
    (hshort : (draftPath dir).bytes.length < FileSystem.maxPath)
    (hindex : fs.get? (l ++ [indexName]) = some (.file (contents m))) :
    read fs dir = .ok m := by
  have hcontents : fs.contents (path dir) = .ok (contents m) := by
    rw [FileSystem.contents, FileSystem.stat, resolve_path w hshort,
      FileSystem.underName_entry hindex (by simp)]
  have htext : fs.readText (path dir) = .ok (text m) := by
    rw [FileSystem.readText, hcontents]
    simp [bind, Except.bind, contents, Contents.ofText, Contents.bytes, Utf8.toString?_ofString]
  rw [read, htext]
  simp only [parse, text, String.toList_ofList, decode_render]
  rfl

theorem read_of_resolve_error {e : FileError} (h : fs.resolve .look (path dir) = .error e) :
    read fs dir = .error (.io e) := by
  have hcontents : fs.contents (path dir) = .error e := by
    rw [FileSystem.contents, FileSystem.stat, h]
  have htext : fs.readText (path dir) = .error e := by
    rw [FileSystem.readText, hcontents]
    rfl
  rw [read, htext]

/-- Reading back an index that took the place of a file, of a link or of nothing. -/
theorem read_replaced {fs' : FileSystem} (w : fs.Way dir l k)
    (hshort : (draftPath dir).bytes.length < FileSystem.maxPath)
    (hreplaced : fs.get? (l ++ [indexName]) ≠ some .directory)
    (hindex : fs'.get? (l ++ [indexName]) = some (.file (contents m)))
    (hcwd : fs'.cwd = fs.cwd)
    (hsame : ∀ x e, x ≠ l ++ [indexName] → fs.get? x = some e → (∀ c, e ≠ .file c) →
      fs'.get? x = some e) :
    read fs' dir =
      if (fs.erase (l ++ [indexName])).stat dir = fs.stat dir then .ok m
      else .error (.io .notADirectory) := by
  by_cases hreached : (fs.erase (l ++ [indexName])).stat dir = fs.stat dir
  · -- The way avoids the place of the index, so it is a way in `fs'` too.
    rw [if_pos hreached]
    obtain ⟨j, way⟩ := FileSystem.exists_way (hreached.trans w.stat)
    have hcwd' : fs'.cwd = (fs.erase (l ++ [indexName])).cwd := by
      rw [hcwd, FileSystem.cwd_erase]
    refine read_of_way (way.mono hcwd' fun x e hx he => ?_) hshort hindex
    rw [FileSystem.get?_erase (by simp)] at hx
    split at hx
    · cases hx
    · next hxi => exact hsame x e hxi hx he
  · rw [if_neg hreached]
    have hpath : (path dir).bytes.length < FileSystem.maxPath :=
      Nat.lt_of_le_of_lt (length_path_le dir) hshort
    have hcases : (fs.erase (l ++ [indexName])).Way dir l k ∨
        fs'.resolve .look (path dir) = .error .notADirectory :=
      w.avoids_or_fails hreplaced hindex hcwd hsame isName_indexName (by decide) hpath
    rcases hcases with way | fails
    · exact absurd (way.stat.trans w.stat.symm) hreached
    · exact read_of_resolve_error fails

theorem isStored_moved (htree : fs.IsTree) (w : fs.Way dir l k) (hdraft : DraftIsFile fs l)
    (hshort : (draftPath dir).bytes.length < FileSystem.maxPath)
    (hindex : fs.get? (l ++ [indexName]) ≠ some .directory) :
    IsStored fs ((drafted fs l m).move (l ++ [draftName]) (l ++ [indexName])) dir m l where
  directory := w.stat
  index := by rw [get?_moved htree w hdraft hindex, if_pos rfl]; rfl
  draft := by
    rw [get?_moved htree w hdraft hindex, if_neg (by simp [draftName_ne_indexName]), if_pos rfl]
  others x hxi hxd := by rw [get?_moved htree w hdraft hindex, if_neg hxi, if_neg hxd]
  read := by
    refine read_replaced w hshort hindex (by rw [get?_moved htree w hdraft hindex, if_pos rfl])
      (by rw [FileSystem.cwd_move, drafted, FileSystem.cwd_insert]) fun x e hxi hx he => ?_
    rw [get?_moved htree w hdraft hindex, if_neg hxi, if_neg fun hxd => ?_]
    · exact hx
    · obtain ⟨c, hc⟩ := hdraft e (hxd ▸ hx)
      exact he c hc

/-! ### Trees -/

theorem isTree_discard {draft : Path} (h : fs.IsTree) : (discard fs draft).IsTree := by
  rw [discard]
  split
  · cases hremove : fs.removeFile draft with
    | error => exact h
    | ok => exact FileSystem.isTree_removeFile h hremove
  · exact h

/-- Writing an index keeps a tree, whatever it comes to. -/
theorem isTree_fileSystem_write (h : fs.IsTree) : (write fs dir m).fileSystem.IsTree := by
  rw [fileSystem_write, store]
  split
  · exact h
  split
  · exact isTree_discard h
  next hwrite =>
  have hdrafted := FileSystem.isTree_write h hwrite
  split
  · exact isTree_discard hdrafted
  · next hrename => exact FileSystem.isTree_rename hdrafted hrename

end RecordingIndex.Index
