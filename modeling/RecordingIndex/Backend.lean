import RecordingIndex.FileSystem.Basic
import RecordingIndex.Notice

/-!
# Backend — formats of segments and their registry

A backend knows the extension of its segments and how to open one for reading; the handle it gives
describes the recording and is released when it is no longer needed.  A registry holds at most one
backend for a storage identifier, in ascending order of the identifiers (`Registry.register`).
-/

namespace RecordingIndex

/-- An open segment. -/
structure Handle where
  path     : Path
  metadata : LoggedAttempt Metadata
  release  : Logged Unit

/-- A format of segments.  The extension is without its dot. -/
structure Backend where
  storageId    : String
  extension    : String
  openReadOnly : FileSystem → Path → LoggedAttempt Handle

/-- Opens a segment, uses the handle and releases it, whatever the use comes to. -/
def Backend.visit {α : Type} (b : Backend) (fs : FileSystem) (path : Path)
    (use : Handle → LoggedAttempt α) : Attempt α := do
  let handle ← Attempt.ofLogged (b.openReadOnly fs path)
  Traced.note (.opened path)
  let result ← monadLift (use handle).trace
  Traced.note (.closed path)
  monadLift handle.release
  Attempt.ofExcept result

/-- Backends by their storage identifiers. -/
structure Registry where
  backends : List Backend

namespace Registry

/-- The extension of segments in a format that is not registered. -/
def fallbackExtension : String := "db3"

/-- No backends. -/
def empty : Registry := ⟨[]⟩

/-- The list with `b` at its place, instead of the backend of the same identifier. -/
def insertBackend (b : Backend) : List Backend → List Backend
  | []      => [b]
  | c :: cs =>
      if b.storageId = c.storageId then b :: cs
      else if b.storageId < c.storageId then b :: c :: cs
      else c :: insertBackend b cs

/-- The registry in which `b` stands for its identifier. -/
def insert (r : Registry) (b : Backend) : Registry := ⟨insertBackend b r.backends⟩

/-- The registry in which `b` stands for its identifier, and a report of it. -/
def register (r : Registry) (b : Backend) : Traced Registry := do
  Traced.report .debug .storage "Registered storage backend"
    [("storage_id", .shown b.storageId), ("extension", .quoted b.extension)]
  return r.insert b

/-- The backend of an identifier. -/
def backend? (r : Registry) (id : String) : Option Backend := r.backends.find? (·.storageId = id)

/-- The backend of an identifier, or the failure to have one. -/
def backend (r : Registry) (id : String) : Except Failure Backend :=
  match r.backend? id with
  | some b => .ok b
  | none   => .error (.backendUnavailable id)

/-- The extension of the segments of an identifier, registered or not. -/
def segmentExtension (r : Registry) (id : String) : String :=
  ((r.backend? id).map Backend.extension).getD fallbackExtension

/-- The identifiers of the registered backends, ascending. -/
def storageIds (r : Registry) : List String := r.backends.map Backend.storageId

end Registry

end RecordingIndex
