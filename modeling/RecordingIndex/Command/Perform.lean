import RecordingIndex.Command.Text
import RecordingIndex.Database.Segment
import RecordingIndex.Reindex.Run
import RecordingIndex.Settings.Basic

/-!
# Command — performing a command

A command works on the recording in a directory: it rebuilds the index, lists the segments, or tells
what the index says.  Only the first changes files.  What a command prints is the text that its
attempt comes to, so a command that fails has printed nothing.
-/

namespace RecordingIndex

/-- What to do with a recording. -/
inductive Command where
  | reindex
  | segments
  | info
  deriving DecidableEq

namespace Command

open Text

/-- What a command leaves: the file system, what happened, and what it prints. -/
structure Performed where
  fileSystem : FileSystem
  attempt    : Traced (Except Failure String)

/-! ### Rebuilding the index -/

/-- The line on a remark. -/
def remarkLine : Reindex.Remark → String
  | .noTopics segment => "  Warning: no topics listed in " ++ segment.display

/-- The text on what a run comes to. -/
def outcomeText : Reindex.Outcome → String
  | .completed r    =>
      lines
        (["Reindexed: " ++ r.directory.display, "  Index: " ++ r.indexPath.display] ++
          summary r.metadata ++ r.remarks.map remarkLine)
  | .noSegments dir => lines ["No segment files found in: " ++ dir.display ++ " (nothing written)"]

/-- Rebuilds the index. -/
def rebuild (s : Settings) (fs : FileSystem) (dir : Path) : Performed :=
  let registry := Registry.standard
  let run := Reindexer.run ⟨registry.value, Index.persister, s.options⟩ fs dir
  ⟨run.fileSystem, do
    let _ ← registry
    let outcome ← run.attempt
    return outcome.map outcomeText⟩

/-! ### Listing the segments -/

/-- The size of a segment, or nothing if it cannot be looked at. -/
def segmentSize (fs : FileSystem) (path : Path) : Traced UInt64 :=
  match fs.stat path with
  | .ok (_, .file c) => return clamp c.size
  | .ok _            => return 0
  | .error e         => do
      Traced.report .warn .commandLine "Failed to stat segment"
        [("path", .shown path.display), ("error", .shown e.message)]
      return 0

/-- The segments of a recording in order, and the backend that knows them. -/
def orderedSegments (registry : Registry) (storageId : String) (fs : FileSystem) (dir : Path) :
    Attempt (List Segment × Backend) := do
  let paths ← Segment.discover fs dir (registry.segmentExtension storageId)
  if paths.isEmpty then throw (.noSegmentsFound dir)
  let ordered ← Attempt.ofExcept (Segment.order paths)
  let backend ← Attempt.ofExcept (registry.backend storageId)
  return (ordered, backend)

/-- Lists the segments. -/
def listSegments (s : Settings) (fs : FileSystem) (dir : Path) : Attempt String := do
  let registry ← monadLift Registry.standard
  let (ordered, backend) ← orderedSegments registry s.storageId fs dir
  let sizes ← monadLift (ordered.mapM fun x => segmentSize fs x.path)
  return segmentTable dir backend.storageId (ordered.zip sizes)

/-! ### Telling what the index says -/

/-- Tells what the index says. -/
def tell (fs : FileSystem) (dir : Path) : Except Failure String :=
  if !Index.isPresent fs dir then
    .error (.metadata ("No index file at " ++ (Index.path dir).display))
  else
    (Index.read fs dir).map fun m =>
      lines (("Recording: " ++ dir.display) :: summary m ++ m.topics.map topicRow)

/-! ### Commands -/

/-- Performs a command. -/
def perform (s : Settings) (fs : FileSystem) (dir : Path) : Command → Performed
  | .reindex  => rebuild s fs dir
  | .segments => ⟨fs, (listSegments s fs dir).trace⟩
  | .info     => ⟨fs, pure (tell fs dir)⟩

end Command

end RecordingIndex
