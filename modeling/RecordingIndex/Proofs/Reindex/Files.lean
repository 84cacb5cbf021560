import RecordingIndex.Proofs.Index.Frame
import RecordingIndex.Proofs.Reindex.Alike
import RecordingIndex.Proofs.Reindex.Persistence

/-!
# Proofs — Reindex — the files that a run leaves alone

A run that keeps its description in an index file leaves every other file as it is, but for one: a
link in the place of the draft is followed, and the file it leads to is overwritten with the text of
the index, be it a segment (`holdsBytes_runAfter_iff`, `not_holdsBytes_linkedDraft`).
-/

namespace RecordingIndex

/-- A file with the bytes of `c` stands at the location. -/
def FileSystem.HoldsBytes (fs : FileSystem) (x : Location) (c : Contents) : Prop :=
  ∃ c', fs.get? x = some (.file c') ∧ c.Same c'

namespace Reindexer

open Reindex

variable {r : Reindexer} {before : Stage} {fs : FileSystem} {dir : Path} {m : Metadata}
  {x : Location} {c : Contents}

/-! ### What a run leaves -/

theorem Ready.isDirectory (h : r.Ready fs dir m) : fs.isDirectory dir = true := by
  obtain ⟨files, -, -, -, -, -⟩ := h
  obtain ⟨l, hstat⟩ := Segment.exists_stat_of_listed files
  rw [FileSystem.isDirectory, hstat]

/-- What is ready is stored. -/
theorem Ready.fileSystem_eq (h : r.Ready fs dir m) (hindex : r.persister = Index.persister) :
    (r.runAfter before fs dir).fileSystem = (Index.store fs dir m).1 := by
  rw [(persistsOnce_runAfter r before fs dir).written m h, hindex]
  rfl

/-- Where nothing is ready, nothing changes. -/
theorem fileSystem_eq_of_not_ready (h : ∀ m, ¬r.Ready fs dir m) :
    (r.runAfter before fs dir).fileSystem = fs := by
  obtain ⟨ts, y, prepared⟩ := exists_prepared r fs dir
  rcases y with e | _ | d
  · exact ((Ran.failed prepared).runAfter before).1
  · exact ((Ran.empty prepared).runAfter before).1
  · exact absurd (ready_iff.mpr ⟨ts, d, prepared, rfl⟩) (h d.metadata)

/-- What stands elsewhere stays, unless what is ready goes there through a link. -/
theorem get?_runAfter (htree : fs.IsTree) (hindex : r.persister = Index.persister)
    (hown : ¬Index.IsOwnPlace fs dir x)
    (hlinks : ∀ m, r.Ready fs dir m → ¬Index.DraftLinksTo fs dir x) :
    (r.runAfter before fs dir).fileSystem.get? x = fs.get? x := by
  by_cases hready : ∃ m, r.Ready fs dir m
  · obtain ⟨m, ready⟩ := hready
    rw [ready.fileSystem_eq hindex]
    exact Index.get?_store htree (hlinks m ready) hown
  · rw [fileSystem_eq_of_not_ready (not_exists.mp hready)]

/-- What is ready goes through a link in the place of the draft. -/
theorem Ready.get?_of_draftLinksTo (h : r.Ready fs dir m) (htree : fs.IsTree)
    (hindex : r.persister = Index.persister) (hown : ¬Index.IsOwnPlace fs dir x)
    (hlinks : Index.DraftLinksTo fs dir x) :
    (r.runAfter before fs dir).fileSystem.get? x = some (.file (Index.contents m)) := by
  rw [h.fileSystem_eq hindex]
  exact Index.get?_store_linked htree h.isDirectory hlinks hown

/-- **A file elsewhere** keeps its bytes unless a link in the place of the draft leads to it and the
run comes to writing an index with other bytes; without that link it is not touched at all. -/
theorem holdsBytes_runAfter_iff (r : Reindexer) (before : Stage) (fs : FileSystem) (dir : Path)
    (x : Location) (c : Contents) (htree : fs.IsTree) (hindex : r.persister = Index.persister)
    (hfile : fs.get? x = some (.file c)) (hown : ¬Index.IsOwnPlace fs dir x) :
    ((r.runAfter before fs dir).fileSystem.HoldsBytes x c ↔
        ∀ m, r.Ready fs dir m → Index.DraftLinksTo fs dir x → c.Same (Index.contents m)) ∧
      (¬Index.DraftIsLink fs dir →
        (r.runAfter before fs dir).fileSystem.get? x = some (.file c)) := by
  constructor
  · constructor
    · rintro ⟨c', hc', hsame⟩ m ready hlinks
      have hwritten : (r.runAfter before fs dir).fileSystem.get? x =
          some (.file (Index.contents m)) :=
        ready.get?_of_draftLinksTo htree hindex hown hlinks
      cases hc'.symm.trans hwritten
      exact hsame
    · intro hsame
      by_cases hlinked : ∃ m, r.Ready fs dir m ∧ Index.DraftLinksTo fs dir x
      · obtain ⟨m, ready, hlinks⟩ := hlinked
        exact ⟨_, ready.get?_of_draftLinksTo htree hindex hown hlinks, hsame m ready hlinks⟩
      · refine ⟨c, ?_, .refl c⟩
        rw [get?_runAfter htree hindex hown fun m ready hlinks => hlinked ⟨m, ready, hlinks⟩, hfile]
  · intro hnolink
    rw [get?_runAfter htree hindex hown fun _ _ hlinks => hnolink hlinks.1, hfile]

/-! ### A draft that is a link -/

namespace Sample

/-- The recording, with a link to its first segment in the place of the draft. -/
def linkedDraft : FileSystem :=
  recording.insert ([directory] ++ [Index.draftName]) (.link (.ofString "s_9.db3"))

/-- The place of the first segment. -/
def first : Location := [directory] ++ [Utf8.ofString "s_9.db3"]

/-- The place of the second segment. -/
def second : Location := [directory] ++ [Utf8.ofString "s_10.db3"]

theorem isTree_linkedDraft : linkedDraft.IsTree :=
  isTree_recording.insert rfl Index.isName_draftName (by decide)

theorem stat_linkedDraft :
    linkedDraft.stat (.ofString "/r") = .ok ([directory], .directory) := by
  decide

theorem get?_linkedDraft_first :
    linkedDraft.get? first = some (.file (.database tables 8192)) := rfl

theorem not_isOwnPlace_linkedDraft {n : Bytes} (hindex : n ≠ Index.indexName)
    (hdraft : n ≠ Index.draftName) :
    ¬Index.IsOwnPlace linkedDraft (.ofString "/r") ([directory] ++ [n]) := by
  rintro ⟨l, hl, hplace⟩
  cases stat_linkedDraft.symm.trans hl
  simp [hindex, hdraft] at hplace

theorem not_isOwnPlace_first : ¬Index.IsOwnPlace linkedDraft (.ofString "/r") first :=
  not_isOwnPlace_linkedDraft (by decide) (by decide)

theorem not_isOwnPlace_second : ¬Index.IsOwnPlace linkedDraft (.ofString "/r") second :=
  not_isOwnPlace_linkedDraft (by decide) (by decide)

theorem resolve_linkedDraft :
    linkedDraft.resolve .make (Index.draftPath (.ofString "/r")) =
      .ok (.entry first (.file (.database tables 8192))) := by
  decide

theorem draftLinksTo_first : Index.DraftLinksTo linkedDraft (.ofString "/r") first :=
  ⟨⟨[directory] ++ [Index.draftName], .ofString "s_9.db3", by decide⟩,
    .file resolve_linkedDraft⟩

theorem not_draftLinksTo_second : ¬Index.DraftLinksTo linkedDraft (.ofString "/r") second := by
  rintro ⟨-, hholds⟩
  have hne : first ≠ second := by decide
  cases hholds with
  | file found =>
      rw [resolve_linkedDraft] at found
      injection found with found
      injection found with hplace
      exact hne hplace
  | free found => cases resolve_linkedDraft.symm.trans found

theorem files_linkedDraft :
    indexer.segmentFiles linkedDraft (.ofString "/r") =
      .ok [.ofString "/r/s_9.db3", .ofString "/r/s_10.db3"] := by
  decide

theorem exists_ready_linkedDraft : ∃ m, indexer.Ready linkedDraft (.ofString "/r") m := by
  obtain ⟨s, hs⟩ := exists_snapshot
  have snapshot : (recover Database.backend linkedDraft (.ofString "/r/s_9.db3")).trace.value =
      .ok s := hs
  exact ⟨_, .intro files_linkedDraft (by simp) order rfl rfl snapshot⟩

end Sample

theorem holdsBytes_runAfter_linkedDraft :
    Sample.linkedDraft.IsTree ∧ Sample.indexer.persister = Index.persister ∧
      Sample.linkedDraft.get? Sample.second = some (.file (.data [1, 2] 0)) ∧
      ¬Index.IsOwnPlace Sample.linkedDraft (.ofString "/r") Sample.second ∧
      (Sample.indexer.runAfter .idle Sample.linkedDraft (.ofString "/r")).fileSystem.HoldsBytes
        Sample.second (.data [1, 2] 0) :=
  have hfile : Sample.linkedDraft.get? Sample.second = some (.file (.data [1, 2] 0)) := rfl
  ⟨Sample.isTree_linkedDraft, rfl, hfile, Sample.not_isOwnPlace_second,
    (holdsBytes_runAfter_iff Sample.indexer .idle Sample.linkedDraft (.ofString "/r") Sample.second
      (.data [1, 2] 0) Sample.isTree_linkedDraft rfl hfile Sample.not_isOwnPlace_second).1.mpr
      fun _ _ hlinks => absurd hlinks Sample.not_draftLinksTo_second⟩

/-- A segment that a link in the place of the draft leads to is lost. -/
theorem not_holdsBytes_linkedDraft :
    Sample.linkedDraft.IsTree ∧ Sample.indexer.persister = Index.persister ∧
      Sample.linkedDraft.get? Sample.first = some (.file (.database Sample.tables 8192)) ∧
      ¬Index.IsOwnPlace Sample.linkedDraft (.ofString "/r") Sample.first ∧
      ¬(Sample.indexer.runAfter .idle Sample.linkedDraft (.ofString "/r")).fileSystem.HoldsBytes
        Sample.first (.database Sample.tables 8192) := by
  refine ⟨Sample.isTree_linkedDraft, rfl, Sample.get?_linkedDraft_first,
    Sample.not_isOwnPlace_first, ?_⟩
  rintro ⟨c', hc', hsame⟩
  obtain ⟨m, ready⟩ := Sample.exists_ready_linkedDraft
  have hwritten : (Sample.indexer.runAfter .idle Sample.linkedDraft
      (.ofString "/r")).fileSystem.get? Sample.first = some (.file (Index.contents m)) :=
    ready.get?_of_draftLinksTo Sample.isTree_linkedDraft rfl Sample.not_isOwnPlace_first
      Sample.draftLinksTo_first
  -- A text is no database.
  cases hc'.symm.trans hwritten
  exact hsame

end Reindexer

end RecordingIndex
