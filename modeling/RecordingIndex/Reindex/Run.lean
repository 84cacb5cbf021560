import RecordingIndex.Index.File
import RecordingIndex.Reindex.Progress
import RecordingIndex.Reindex.Reconcile
import RecordingIndex.Reindex.Recovery
import RecordingIndex.Segment.Discovery
import RecordingIndex.Segment.Order

/-!
# Reindex — a run

A run discovers the segments of a recording, orders them, takes the snapshot of the first,
reconciles it with the others, sums up the sizes and hands the description on to be persisted.  All
of this but the last only reads (`Reindexer.prepare`), so a run that ends before that leaves the
file system as it was.
-/

namespace RecordingIndex.Reindex

/-- What a completed run has to remark. -/
inductive Remark where
  | noTopics (segment : Path)
  deriving DecidableEq

/-- What a completed run has done. -/
structure Report where
  directory      : Path
  metadata       : Metadata
  topics         : List Topic
  indexPath      : Path
  snapshotSource : Path
  remarks        : List Remark
  deriving DecidableEq

/-- What a run comes to. -/
inductive Outcome where
  | completed (report : Report)
  | noSegments (directory : Path)
  deriving DecidableEq

/-- A description that is ready to be persisted. -/
structure Draft where
  metadata       : Metadata
  topics         : List Topic
  snapshotSource : Path
  remarks        : List Remark

/-- The report on a draft once it is persisted. -/
def Draft.report (d : Draft) (dir indexPath : Path) : Report :=
  ⟨dir, d.metadata, d.topics, indexPath, d.snapshotSource, d.remarks⟩

end Reindex

open Reindex

/-- What runs depend on: the known formats, the place for descriptions and the options. -/
structure Reindexer where
  registry  : Registry
  persister : Persister
  options   : Options

/-- What a run leaves: the file system, the stage it ends in with the passages on the way, what
happened, and what it comes to. -/
structure Reindex.Run where
  fileSystem : FileSystem
  progress   : Progress
  attempt    : Traced (Except Failure Outcome)

namespace Reindex

/-- The stage that a run ends in. -/
def Run.stage (r : Run) : Stage := r.progress.stage

/-- The passages between stages, in order. -/
def Run.passages (r : Run) : List Passage := r.progress.passages

/-- What a run comes to. -/
def Run.outcome (r : Run) : Except Failure Outcome := r.attempt.value

/-- The remarks on a snapshot. -/
def remarksOn (s : Snapshot) : List Remark := if s.hasTopics then [] else [.noTopics s.source]

end Reindex

namespace Reindexer

/-- The files of the segments in a directory, by the extension of the chosen format. -/
def discover (r : Reindexer) (fs : FileSystem) (dir : Path) : Attempt (List Path) :=
  Segment.discover fs dir (r.registry.segmentExtension r.options.storageId)

/-- Everything before a description is persisted; nothing where there are no segments. -/
def prepare (r : Reindexer) (fs : FileSystem) (dir : Path) : StagedAttempt (Option Draft) := do
  Staged.pass .discovering
  let paths ← StagedAttempt.ofAttempt (r.discover fs dir)
  if paths.isEmpty then
    Traced.report .warn .reindex "No segment files found for reindexing, nothing written"
      [("dir", .shown dir.display),
       ("extension", .quoted (r.registry.segmentExtension r.options.storageId))]
    return none
  Staged.pass .ordering
  let segments ← StagedAttempt.ofAttempt (Attempt.ofExcept (Segment.order paths))
  Staged.pass .recovering
  let backend ← StagedAttempt.ofAttempt (Attempt.ofExcept (r.registry.backend r.options.storageId))
  match segments with
  -- Ordering loses no path, so there is a first segment here.
  | []         => return none
  | first :: _ =>
      let snapshot ← StagedAttempt.ofAttempt (recover backend fs first.path)
      Staged.pass .reconciling
      let listed ← reconcile snapshot.metadata segments r.options
      Staged.pass .finalizing
      let metadata ← finalize fs dir listed
      return some ⟨metadata, listed.topicIdentities, snapshot.source, remarksOn snapshot⟩

/-- The report that a run is complete. -/
def reportComplete (report : Report) : Traced Unit :=
  Traced.report .info .reindex "Reindex complete"
    [("dir", .shown report.directory.display), ("index", .shown report.indexPath.display),
     ("segments", .count report.metadata.relativePaths.length),
     ("topics", .count report.topics.length),
     ("bag_size", .count report.metadata.bagSize.toNat)]

/-- Hands a draft on to be persisted. -/
def persist (r : Reindexer) (fs : FileSystem) (dir : Path) (d : Draft) :
    Staged (FileSystem × Except Failure Outcome) := do
  Staged.pass .persisting
  Traced.note (.handedOver dir d.metadata)
  let written := r.persister.write fs dir d.metadata
  match ← written.attempt.trace with
  | .error e => return (written.fileSystem, .error e)
  | .ok ()   =>
      let report := d.report dir (r.persister.indexPath dir)
      reportComplete report
      return (written.fileSystem, .ok (.completed report))

/-- The stages of a run before the last. -/
def body (r : Reindexer) (fs : FileSystem) (dir : Path) :
    Staged (FileSystem × Except Failure Outcome) := do
  match ← (r.prepare fs dir).run with
  | .error e     => return (fs, .error e)
  | .ok none     => return (fs, .ok (.noSegments dir))
  | .ok (some d) => r.persist fs dir d

/-- The passage to the last stage, and a report if it is a failure. -/
def conclude (dir : Path) : Except Failure Outcome → Staged Unit
  | .ok _    => Staged.pass .done
  | .error e => do
      Staged.pass (.failed e.kind)
      Traced.report .error .reindex "Reindex failed"
        [("dir", .shown dir.display), ("error", .shown e.message)]

/-- The stages of a run, from the reset on. -/
def course (r : Reindexer) (fs : FileSystem) (dir : Path) :
    Staged (FileSystem × Except Failure Outcome) := do
  Staged.reset
  Traced.report .info .reindex "Beginning reindex"
    [("dir", .shown dir.display), ("storage_id", .shown r.options.storageId)]
  let (fs', result) ← r.body fs dir
  conclude dir result
  return (fs', result)

/-- Rebuilds the index of the recording in a directory, where earlier runs ended in `before`. -/
def runAfter (r : Reindexer) (before : Stage) (fs : FileSystem) (dir : Path) : Run :=
  let ⟨notices, (fs', result), progress⟩ := (r.course fs dir).run ⟨before, []⟩
  ⟨fs', progress, ⟨notices, result⟩⟩

/-- Rebuilds the index of the recording in a directory. -/
def run (r : Reindexer) (fs : FileSystem) (dir : Path) : Run := r.runAfter .idle fs dir

end Reindexer

end RecordingIndex
