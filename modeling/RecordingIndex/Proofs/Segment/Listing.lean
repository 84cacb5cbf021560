import RecordingIndex.Proofs.Segment.Discovery

/-!
# Proofs — Segment — what discovery lists

Discovery fails over a path that leads to no directory or to one that the system refuses to list, and
only over those.  In a directory it lists the entries under whose paths regular files are found and
whose names have the extension (`IsSegmentFile`), each once (`lists_discover`).  A file that stands
in the directory may be out of reach of its path (`discover_sealed_and_longest`).
-/

namespace RecordingIndex.Segment

open RecordingIndex.Path (IsName dot)

variable {fs : FileSystem} {dir : Path} {l : Location} {ext : String} {n : Bytes}

/-- The extension stands behind the last dot of the name, which is not its first character. -/
def HasExtension (n ext : Bytes) : Prop :=
  ∃ stem, stem ≠ [] ∧ n = stem ++ dot :: ext ∧ dot ∉ ext

/-- Something stands under the name in the directory at `l`, its path leads to a regular file, and
the name has the extension. -/
structure IsSegmentFile (fs : FileSystem) (dir : Path) (l : Location) (ext : String) (n : Bytes) :
    Prop where
  entry     : (fs.get? (l ++ [n])).isSome
  file      : ∃ place c, fs.stat (dir.child n) = .ok (place, .file c)
  extension : HasExtension n (Utf8.ofString ext)

/-- The paths are those of the segment files in the directory at `l`, each once. -/
structure IsListing (fs : FileSystem) (dir : Path) (l : Location) (ext : String)
    (paths : List Path) : Prop where
  entries : ∃ names : List Bytes, paths = names.map dir.child ∧ names.Nodup ∧
              ∀ n, n ∈ names ↔ IsSegmentFile fs dir l ext n
  nodup   : paths.Nodup
  others  : ∀ n, IsName n → ¬IsSegmentFile fs dir l ext n → dir.child n ∉ paths
  dotted  : '.' ∈ ext.toList → paths = []

/-- What is found under a path is the listing of the directory there, or a complaint about the path
if it leads to no directory or to one that is not listed. -/
structure Lists (fs : FileSystem) (dir : Path) (ext : String) (r : Except Failure (List Path)) :
    Prop where
  listed       : ∀ l, fs.stat dir = .ok (l, .directory) → fs.refusal? l = none →
                   ∃ paths, r = .ok paths ∧ IsListing fs dir l ext paths
  refused      : ∀ l e, fs.stat dir = .ok (l, .directory) → fs.refusal? l = some e →
                   r = .error (.invalidDirectory dir e.message)
  missing      : ∀ e, fs.stat dir = .error e →
                   r = .error (.invalidDirectory dir "does not exist")
  notDirectory : ∀ l e, fs.stat dir = .ok (l, e) → e ≠ .directory →
                   r = .error (.invalidDirectory dir "not a directory")

/-! ### Extensions -/

theorem extension?_child_eq_some_iff {e : Bytes} (hn : IsName n) :
    (dir.child n).extension? = some e ↔ HasExtension n e := by
  rw [Path.extension?_child hn]
  constructor
  · intro h
    exact ⟨_, Path.divide_eq_iff.mp (Prod.ext rfl h)⟩
  · rintro ⟨stem, h⟩
    rw [Path.divide_eq_iff.mpr h]

theorem dot_mem_ofString {s : String} (h : '.' ∈ s.toList) : dot ∈ Utf8.ofString s :=
  List.mem_flatMap.mpr ⟨'.', h, by decide⟩

/-! ### Listings -/

theorem isSegmentFile_iff (htree : fs.IsTree) (hdir : fs.stat dir = .ok (l, .directory)) :
    IsSegmentFile fs dir l ext n ↔ IsFileName fs dir ext n := by
  constructor
  · rintro ⟨hentry, ⟨place, c, hfile⟩, hext⟩
    refine ⟨⟨l, hdir, hentry⟩, ?_, (extension?_child_eq_some_iff (htree.name hentry)).mpr hext⟩
    rw [FileSystem.isFile, hfile]
  · rintro ⟨⟨k, hk, hentry⟩, hfile, hext⟩
    cases hdir.symm.trans hk
    exact ⟨hentry, FileSystem.exists_of_isFile hfile,
      (extension?_child_eq_some_iff (htree.name hentry)).mp hext⟩

theorem isListing_of_listed {paths : List Path} (htree : fs.IsTree)
    (hdir : fs.stat dir = .ok (l, .directory)) (h : listed fs dir ext = .ok paths) :
    IsListing fs dir l ext paths := by
  obtain ⟨names, rfl, hnodup, hmem⟩ := exists_names_of_listed h
  have hnames : ∀ n, n ∈ names ↔ IsSegmentFile fs dir l ext n := fun n =>
    (hmem n).trans (isSegmentFile_iff htree hdir).symm
  have hisName : ∀ n ∈ names, IsName n := fun n hn => htree.name ((hnames n).mp hn).entry
  refine ⟨⟨names, rfl, hnodup, hnames⟩, ?_, fun n hn hno hpath => ?_, fun hdot => ?_⟩
  · refine List.pairwise_map.mpr (hnodup.imp_of_mem fun hm hn hne heq => hne ?_)
    exact Path.eq_of_child_eq (hisName _ hm) (hisName _ hn) heq
  · obtain ⟨m, hm, hchild⟩ := List.mem_map.mp hpath
    have hmn : m = n := Path.eq_of_child_eq (hisName m hm) hn hchild
    exact hno (hmn ▸ (hnames m).mp hm)
  · -- Nothing stands behind the last dot that holds a dot.
    rw [List.map_eq_nil_iff, List.eq_nil_iff_forall_not_mem]
    intro n hn
    obtain ⟨stem, -, -, hno⟩ := ((hnames n).mp hn).extension
    exact hno (dot_mem_ofString hdot)

/-- **Discovery** lists the segment files of a directory. -/
theorem lists_discover (fs : FileSystem) (dir : Path) (ext : String) (htree : fs.IsTree) :
    Lists fs dir ext (discover fs dir ext).trace.value where
  listed l hdir hlist := by
    obtain ⟨k, w⟩ := FileSystem.exists_way hdir
    obtain ⟨paths, hpaths⟩ := exists_listed w hlist ext
    rw [value_discover]
    exact ⟨paths, hpaths, isListing_of_listed htree hdir hpaths⟩
  refused l e hdir hrefused := by
    obtain ⟨k, w⟩ := FileSystem.exists_way hdir
    rw [value_discover, listed_of_refused w hrefused]
  missing e he := by
    rw [value_discover, Segment.listed, FileSystem.exists?, he]
    rfl
  notDirectory l e he hne := by
    have hexists : fs.exists? dir = true := FileSystem.exists?_of_stat he
    have hdir : fs.isDirectory dir = false := by
      rw [FileSystem.isDirectory, he]
      cases e with
      | directory => exact absurd rfl hne
      | file | link => rfl
    rw [value_discover, Segment.listed, hexists, hdir]
    rfl

/-! ### A directory of files and links -/

namespace Sample

/-- The place of a name in the directory of the sample. -/
def place (name : String) : Location := [Utf8.ofString "r"] ++ [Utf8.ofString name]

/-- A file and a link to it, and names that are passed over: a directory, a link to itself and a
hidden file. -/
def mixed : FileSystem :=
  (((((FileSystem.empty.insert [Utf8.ofString "r"] .directory).insert
    (place "a.db3") (.file (.data [] 0))).insert
    (place "b.db3") (.link (.ofString "a.db3"))).insert
    (place "c.db3") .directory).insert
    (place "d.db3") (.link (.ofString "d.db3"))).insert
    (place ".db3") (.file (.data [] 0))

theorem isTree_mixed : mixed.IsTree :=
  (((((FileSystem.isTree_empty.insert (l := []) rfl (by decide) (by decide)).insert
    rfl (by decide) (by decide)).insert
    rfl (by decide) (by decide)).insert
    rfl (by decide) (by decide)).insert
    rfl (by decide) (by decide)).insert
    rfl (by decide) (by decide)

/-- The same entries, but the system refuses to list directories. -/
def sealed : FileSystem := { mixed with refusals := ⟨fun _ => some .accessDenied⟩ }

/-- The directory of the samples under the longest path that the system takes. -/
def longest : Path := ⟨(Path.ofString "/r").bytes ++ List.replicate 4093 Path.slash⟩

theorem stat_mixed : mixed.stat (.ofString "/r") = .ok ([Utf8.ofString "r"], .directory) := rfl

theorem exists_way_longest : ∃ k, mixed.Way longest [Utf8.ofString "r"] k := by
  obtain ⟨k, w⟩ := FileSystem.exists_way stat_mixed
  exact ⟨k, w.append_slashes (by decide)⟩

theorem value_discover_longest : (discover mixed longest "db3").trace.value = .ok [] := by
  obtain ⟨k, w⟩ := exists_way_longest
  have hrefusal : mixed.refusal? [Utf8.ofString "r"] = none := rfl
  have hlong : FileSystem.maxPath ≤ longest.bytes.length + 1 := by
    rw [longest, List.length_append, List.length_replicate]
    decide
  rw [value_discover, listed_of_longest isTree_mixed w hrefusal hlong]

end Sample

theorem lists_discover_mixed : Sample.mixed.IsTree ∧
    (discover Sample.mixed (.ofString "/r") "db3").trace.value =
      .ok [.ofString "/r/a.db3", .ofString "/r/b.db3"] ∧
    Lists Sample.mixed (.ofString "/r") "db3"
      (discover Sample.mixed (.ofString "/r") "db3").trace.value :=
  ⟨Sample.isTree_mixed, rfl, lists_discover _ _ _ Sample.isTree_mixed⟩

/-- Discovery fails over a directory that is there but is not listed, and it passes over a file in a
directory whose path leaves no room for names. -/
theorem discover_sealed_and_longest :
    (Sample.sealed.stat (.ofString "/r") = .ok ([Utf8.ofString "r"], .directory) ∧
      (discover Sample.sealed (.ofString "/r") "db3").trace.value =
        .error (.invalidDirectory (.ofString "/r") "Permission denied (os error 13)")) ∧
      Sample.mixed.stat Sample.longest = .ok ([Utf8.ofString "r"], .directory) ∧
      Sample.mixed.get? (Sample.place "a.db3") = some (.file (.data [] 0)) ∧
      HasExtension (Utf8.ofString "a.db3") (Utf8.ofString "db3") ∧
      (discover Sample.mixed Sample.longest "db3").trace.value = .ok [] := by
  obtain ⟨k, w⟩ := Sample.exists_way_longest
  exact ⟨⟨rfl, rfl⟩, w.stat, by decide, ⟨Utf8.ofString "a", by decide, by decide, by decide⟩,
    Sample.value_discover_longest⟩

end RecordingIndex.Segment
