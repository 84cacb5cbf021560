import RecordingIndex.Database.Image
import RecordingIndex.FileSystem.Operations

/-!
# CommandLine — surroundings

What a run has before it and what it leaves behind, as a disk shows them.  Before a run each path of
a listing is observed (`FileSystem.observe`); after it the files that differ are written and the
ones that are gone are removed (`FileSystem.changes`).
-/

namespace RecordingIndex

/-- What a file of these bytes holds. -/
def Contents.ofBytes (bytes : ByteArray) : Contents :=
  match Database.ofImage? bytes with
  | some db => .database db bytes.size
  | none    => .data bytes.toList 0

namespace FileSystem

/-- The file system of one directory, in which relative paths start, and of those that lead to
it. -/
def startingAt (here : Path) : FileSystem :=
  match empty.makeDirectories here with
  | .ok fs   => { fs with cwd := (Path.split Path.slash here.bytes).filter (· ≠ []) }
  | .error _ => empty

/-- The file system with what stands at a path: the bytes of a file, or a directory. -/
def observe (fs : FileSystem) (p : Path) (file : Option ByteArray) : FileSystem :=
  match fs.makeDirectories p with
  | .error _ => fs
  | .ok fs   =>
      match file, fs.stat p with
      | some bytes, .ok (l, .directory) => fs.insert l (.file (.ofBytes bytes))
      | _,          _                   => fs

/-- A change of a disk. -/
inductive Change where
  | write (path : Path) (bytes : Bytes)
  | remove (path : Path)
  deriving DecidableEq

/-- The path from the root to a location. -/
def pathOf (l : Location) : Path := ⟨l.flatMap (Path.slash :: ·)⟩

/-- The write that puts an entry in place, if it is a file and was not there before. -/
def written? (before : FileSystem) : Location × Entry → Option Change
  | (l, .file c) =>
      if before.get? l = some (.file c) then none else some (.write (pathOf l) c.bytes)
  | _            => none

/-- The removal of a file that is not there any more. -/
def removed? (after : FileSystem) : Location × Entry → Option Change
  | (l, .file _) => if (after.get? l).isNone then some (.remove (pathOf l)) else none
  | _            => none

/-- The changes that lead from the files of one file system to those of another. -/
def changes (before after : FileSystem) : List Change :=
  after.entries.filterMap before.written? ++ before.entries.filterMap after.removed?

end FileSystem

end RecordingIndex
