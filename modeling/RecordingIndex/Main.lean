import RecordingIndex.CommandLine.Program
import RecordingIndex.CommandLine.Surroundings

/-!
# Main

The program at a shell.  Its standard input lists the paths that it may see, one a line: what can be
read as a file is one, and all else is a directory.  The run itself is `CommandLine.run`; what is
left here is to read before it, and to print and write after it.
-/

namespace RecordingIndex.CommandLine

/-- The file system with what the disk has at a path. -/
def look (fs : FileSystem) (path : String) : IO FileSystem := do
  let file ← try some <$> IO.FS.readBinFile path catch _ => pure none
  return fs.observe (.ofString path) file

/-- Makes a change on the disk. -/
def enact : FileSystem.Change → IO Unit
  | .write p bytes => IO.FS.writeBinFile p.display ⟨bytes.toArray⟩
  | .remove p      => IO.FS.removeFile p.display

end RecordingIndex.CommandLine

open RecordingIndex

def main (words : List String) : IO UInt32 := do
  let here := toString (← IO.currentDir)
  let listing := (← (← IO.getStdin).lines).filter (· ≠ "")
  let before ← listing.foldlM CommandLine.look (.startingAt (.ofString here))
  let done := CommandLine.run (← IO.getEnv "RUST_LOG") (words.map Utf8.ofString) before
  for change in before.changes done.fileSystem do
    CommandLine.enact change
  IO.print done.out
  IO.eprint done.err
  return UInt32.ofNat done.exit
