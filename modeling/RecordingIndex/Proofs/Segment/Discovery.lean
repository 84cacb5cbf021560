import RecordingIndex.Proofs.FileSystem.Plain
import RecordingIndex.Proofs.FileSystem.Tree
import RecordingIndex.Proofs.Segment.Name
import RecordingIndex.Segment.Discovery

/-!
# Proofs — Segment — the segment files of a directory

The files found in a directory are its entries that lead to regular files and have the extension
(`exists_names_of_listed`).  The name of one that has a number is text, so its text loses nothing
and names the same entry again (`ofString_fileName`).
-/

namespace RecordingIndex.Segment

variable {fs : FileSystem} {dir : Path} {l : Location} {k : Nat} {ext : String} {paths : List Path}
  {n : Bytes} {id : UInt64}

theorem value_discover (fs : FileSystem) (dir : Path) (ext : String) :
    (discover fs dir ext).trace.value = listed fs dir ext := by
  rw [discover]
  cases listed fs dir ext <;> rfl

/-- The name of an entry directly in a directory that leads to a regular file and has the
extension. -/
structure IsFileName (fs : FileSystem) (dir : Path) (ext : String) (n : Bytes) : Prop where
  entry     : ∃ l, fs.stat dir = .ok (l, .directory) ∧ (fs.get? (l ++ [n])).isSome
  file      : fs.isFile (dir.child n)
  extension : (dir.child n).extension? = some (Utf8.ofString ext)

/-- **Discovery** finds each segment file once. -/
theorem exists_names_of_listed (h : listed fs dir ext = .ok paths) :
    ∃ names : List Bytes, paths = names.map dir.child ∧ names.Nodup ∧
      ∀ n, n ∈ names ↔ IsFileName fs dir ext n := by
  rw [listed] at h
  split at h
  · cases h
  split at h
  · cases h
  split at h
  · cases h
  next names hlist =>
  cases h
  obtain ⟨l, hstat, -, rfl⟩ := FileSystem.exists_of_list hlist
  refine ⟨_, rfl, (fs.nodup_names l).filter _, ?_⟩
  intro n
  rw [List.mem_filter, FileSystem.mem_names, isSegment, Bool.and_eq_true, beq_iff_eq]
  constructor
  · rintro ⟨hentry, hfile, hext⟩
    exact ⟨⟨l, hstat, hentry⟩, hfile, hext⟩
  · rintro ⟨⟨k, hk, hentry⟩, hfile, hext⟩
    cases hstat.symm.trans hk
    exact ⟨hentry, hfile, hext⟩

/-- Segment files are found in directories only. -/
theorem exists_stat_of_listed (h : listed fs dir ext = .ok paths) :
    ∃ l, fs.stat dir = .ok (l, .directory) := by
  rw [listed] at h
  split at h
  · cases h
  split at h
  · cases h
  next hdir => exact FileSystem.exists_of_isDirectory (by simpa using hdir)

/-- In a directory that can be listed they are found. -/
theorem exists_listed (w : fs.Way dir l k) (h : fs.refusal? l = none) (ext : String) :
    ∃ paths, listed fs dir ext = .ok paths := by
  rw [listed, FileSystem.exists?_of_stat w.stat, w.isDirectory,
    FileSystem.list_of_not_refused w.stat h]
  exact ⟨_, rfl⟩

/-- In one that cannot they are not, for the reason that the system gives. -/
theorem listed_of_refused {e : FileError} (w : fs.Way dir l k) (h : fs.refusal? l = some e)
    (ext : String) : listed fs dir ext = .error (.invalidDirectory dir e.message) := by
  rw [listed, FileSystem.exists?_of_stat w.stat, w.isDirectory, FileSystem.list_of_refused w.stat h]
  rfl

/-- The directory is one that can be listed. -/
theorem refusal?_of_listed (w : fs.Way dir l k) (h : listed fs dir ext = .ok paths) :
    fs.refusal? l = none := by
  cases hrefused : fs.refusal? l with
  | none => rfl
  | some e => cases (listed_of_refused w hrefused ext).symm.trans h

/-- Under a path that leaves no room for a name none are found, whatever stands in the directory. -/
theorem listed_of_longest (htree : fs.IsTree) (w : fs.Way dir l k) (h : fs.refusal? l = none)
    (hlong : FileSystem.maxPath ≤ dir.bytes.length + 1) (ext : String) :
    listed fs dir ext = .ok [] := by
  obtain ⟨paths, hpaths⟩ := exists_listed w h ext
  obtain ⟨names, rfl, -, hnames⟩ := exists_names_of_listed hpaths
  have hnone : names = [] := by
    refine List.eq_nil_iff_forall_not_mem.mpr fun n hn => ?_
    have hfile := (hnames n).mp hn
    obtain ⟨l', -, hentry⟩ := hfile.entry
    have hname := htree.name hentry
    have hlength := Path.length_lt_child (p := dir) hname
    obtain ⟨e, he⟩ := w.exists_stat_child_error hname fun hcan =>
      absurd hcan.path (by omega)
    simpa [FileSystem.isFile, he] using hfile.file
  rw [hpaths, hnone]
  rfl

/-- In a directory without links the segment files are the files with the extension that can be
looked for. -/
theorem isFileName_iff (htree : fs.IsTree) (w : fs.Way dir l k) (hplain : fs.IsPlain l) :
    IsFileName fs dir ext n ↔
      FileSystem.CanName dir n ∧ (dir.child n).extension? = some (Utf8.ofString ext) ∧
        ∃ c, fs.get? (l ++ [n]) = some (.file c) := by
  constructor
  · rintro ⟨⟨l', hl', hentry⟩, hfile, hext⟩
    cases hl'.symm.trans w.stat
    obtain ⟨c, hc⟩ := FileSystem.isFile_iff.mp hfile
    obtain ⟨hcan, hget⟩ := (w.contents_child (htree.name hentry) hplain).mp hc
    exact ⟨hcan, hext, c, hget⟩
  · rintro ⟨hcan, hext, c, hget⟩
    have hentry : (fs.get? (l ++ [n])).isSome := by simp [hget]
    have hc := (w.contents_child (htree.name hentry) hplain).mpr ⟨hcan, hget⟩
    exact ⟨⟨l, w.stat, hentry⟩, FileSystem.isFile_iff.mpr ⟨c, hc⟩, hext⟩

/-! ### Names as text -/

/-- The text of the name of a segment names the segment. -/
theorem ofString_fileName (hn : Path.IsName n)
    (hext : (dir.child n).extension? = some (Utf8.ofString ext))
    (hid : idOf (dir.child n) = .ok id) :
    Utf8.ofString (dir.child n).fileNameLossy = n := by
  have hname := Path.fileName?_child (p := dir) hn
  obtain ⟨front, digits, e, hspells, -⟩ :=
    (idOf?_eq_some_iff (Path.fileName?_eq_some_iff.mp hname)).mp (idOf_eq_ok_iff.mp hid)
  rw [Path.extension?_child hn, hspells.divide, Option.some.injEq] at hext
  rw [Path.fileNameLossy, hname, Option.getD_some]
  exact Utf8.ofString_toStringLossy (Utf8.isText_iff.mp (hspells.isText ⟨ext, hext.symm⟩))

end RecordingIndex.Segment
