import RecordingIndex.FileSystem.Operations
import RecordingIndex.Notice

/-!
# Segment — the segment files of a directory

`Segment.discover` lists the entries of a directory that lead to regular files and have the wanted
extension, in the directory's order.
-/

namespace RecordingIndex.Segment

/-- Whether the entry `name` of `dir` leads to a regular file with the extension. -/
def isSegment (fs : FileSystem) (dir : Path) (extension : String) (name : Bytes) : Bool :=
  fs.isFile (dir.child name) &&
    (dir.child name).extension? == some (Utf8.ofString extension)

/-- The segment files directly in a directory. -/
def listed (fs : FileSystem) (dir : Path) (extension : String) : Except Failure (List Path) :=
  if !fs.exists? dir then .error (.invalidDirectory dir "does not exist")
  else if !fs.isDirectory dir then .error (.invalidDirectory dir "not a directory")
  else
    match fs.list dir with
    | .error e  => .error (.invalidDirectory dir e.message)
    | .ok names => .ok ((names.filter (isSegment fs dir extension)).map dir.child)

/-- The segment files directly in a directory, and a report of how many there are. -/
def discover (fs : FileSystem) (dir : Path) (extension : String) : Attempt (List Path) := do
  let found ← Attempt.ofExcept (listed fs dir extension)
  Traced.report .debug .reindex "Segment discovery complete"
    [("dir", .shown dir.display), ("extension", .quoted extension), ("found", .count found.length)]
  return found

end RecordingIndex.Segment
