import RecordingIndex.FileSystem.Operations
import RecordingIndex.Index.Schema
import RecordingIndex.Index.Text
import RecordingIndex.Notice

/-!
# Index — the file of an index

An index is written beside its place and then renamed into it, so that its place holds either what
it held before or the whole text.  If a step fails, the file beside it is removed again.
-/

namespace RecordingIndex

namespace Index

/-- The place of the index of the recording in a directory. -/
def path (dir : Path) : Path := dir.join (.ofString Metadata.fileName)

/-- The place of an index that is being written. -/
def draftPath (dir : Path) : Path := (path dir).withExtension (Utf8.ofString "yaml.tmp")

/-- Whether a directory has an index. -/
def isPresent (fs : FileSystem) (dir : Path) : Bool := fs.isFile (path dir)

/-- The description in the index of a recording. -/
def read (fs : FileSystem) (dir : Path) : Except Failure Metadata :=
  match fs.readText (path dir) with
  | .error e => .error (.io e)
  | .ok text => parse text

/-- The contents of the file of an index. -/
def contents (m : Metadata) : Contents := .ofText (text m)

/-- The file system without the draft, if the draft is a file. -/
def discard (fs : FileSystem) (draft : Path) : FileSystem :=
  if fs.isFile draft then (fs.removeFile draft).toOption.getD fs else fs

/-- The file system once the index of `dir` is written, and the reason if it is not. -/
def store (fs : FileSystem) (dir : Path) (m : Metadata) : FileSystem × Except String Unit :=
  if !fs.isDirectory dir then (fs, .error "not a directory")
  else
    -- Only what is a file is removed, so that a directory in the place of the draft stays.
    match fs.write (draftPath dir) (contents m) with
    | .error e => (discard fs (draftPath dir), .error e.message)
    | .ok fs'  =>
        match fs'.rename (draftPath dir) (path dir) with
        | .error e => (discard fs' (draftPath dir), .error e.message)
        | .ok fs'' => (fs'', .ok ())

end Index

/-- A changed file system and what a task left behind. -/
structure Written where
  fileSystem : FileSystem
  attempt    : LoggedAttempt Unit

/-- A place to keep descriptions of recordings. -/
structure Persister where
  indexPath : Path → Path
  write     : FileSystem → Path → Metadata → Written

namespace Index

/-- The report that an index is written. -/
def reportWritten (dir : Path) (m : Metadata) : Logged Unit :=
  Logged.report .info .storage "Wrote recording metadata"
    [("path", .shown (path dir).display), ("segments", .count m.relativePaths.length),
     ("topics", .count m.topicCount), ("bag_size", .count m.bagSize.toNat)]

/-- Writes the index of a recording. -/
def write (fs : FileSystem) (dir : Path) (m : Metadata) : Written :=
  let (fs', result) := store fs dir m
  ⟨fs',
    match result with
    | .error reason => throw (.persistFailed (path dir) reason)
    | .ok ()        => monadLift (reportWritten dir m)⟩

@[simp] theorem fileSystem_write (fs : FileSystem) (dir : Path) (m : Metadata) :
    (write fs dir m).fileSystem = (store fs dir m).1 := rfl

theorem value_write (fs : FileSystem) (dir : Path) (m : Metadata) :
    (write fs dir m).attempt.trace.value =
      (store fs dir m).2.mapError (.persistFailed (path dir)) := by
  rw [write]
  rcases store fs dir m with ⟨fs', _ | _⟩ <;> rfl

/-- Descriptions are kept in index files. -/
def persister : Persister := ⟨path, write⟩

end Index

end RecordingIndex
