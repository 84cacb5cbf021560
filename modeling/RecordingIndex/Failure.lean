import RecordingIndex.FileSystem.Error
import RecordingIndex.Path

/-!
# Failure — why a task ends without a result

A failure keeps what it is about; `Failure.kind` forgets that, and `Failure.message` words it.  Only
a recording without segments is a *soft* failure: there was nothing to do.
-/

namespace RecordingIndex

/-- Why a task ends without a result. -/
inductive Failure where
  | io (cause : FileError)
  | invalidDirectory (path : Path) (reason : String)
  | malformedSegmentName (name : String)
  | duplicateSegmentId (id : UInt64) (first second : String)
  | segmentOpenFailed (path : Path) (reason : String)
  | backendUnavailable (storageId : String)
  | noSegmentsFound (path : Path)
  | persistFailed (path : Path) (reason : String)
  | storage (text : String)
  | metadata (text : String)
  | config (text : String)
  deriving DecidableEq

namespace Failure

/-- A failure without what it is about. -/
inductive Kind where
  | io
  | invalidDirectory
  | malformedSegmentName
  | duplicateSegmentId
  | segmentOpenFailed
  | backendUnavailable
  | noSegmentsFound
  | persistFailed
  | storage
  | metadata
  | config
  deriving DecidableEq

/-- The kind of a failure. -/
def kind : Failure → Kind
  | .io _                     => .io
  | .invalidDirectory _ _     => .invalidDirectory
  | .malformedSegmentName _   => .malformedSegmentName
  | .duplicateSegmentId _ _ _ => .duplicateSegmentId
  | .segmentOpenFailed _ _    => .segmentOpenFailed
  | .backendUnavailable _     => .backendUnavailable
  | .noSegmentsFound _        => .noSegmentsFound
  | .persistFailed _ _        => .persistFailed
  | .storage _                => .storage
  | .metadata _               => .metadata
  | .config _                 => .config

/-- The name of a kind. -/
def Kind.name : Kind → String
  | .io                   => "Io"
  | .invalidDirectory     => "InvalidRecordingDirectory"
  | .malformedSegmentName => "MalformedSegmentName"
  | .duplicateSegmentId   => "DuplicateSegmentId"
  | .segmentOpenFailed    => "SegmentOpenFailed"
  | .backendUnavailable   => "StorageBackendUnavailable"
  | .noSegmentsFound      => "NoSegmentsFound"
  | .persistFailed        => "PersistFailed"
  | .storage              => "Storage"
  | .metadata             => "Metadata"
  | .config               => "Config"

/-- Every kind. -/
def Kind.all : List Kind :=
  [.io, .invalidDirectory, .malformedSegmentName, .duplicateSegmentId, .segmentOpenFailed,
   .backendUnavailable, .noSegmentsFound, .persistFailed, .storage, .metadata, .config]

/-- The wording of a failure. -/
def message : Failure → String
  | .io cause                  => "I/O error: " ++ cause.message
  | .invalidDirectory p reason => "Invalid recording directory " ++ p.display ++ ": " ++ reason
  | .malformedSegmentName name =>
      "Malformed segment name '" ++ name ++ "' - expected <prefix>_<number>.<extension>"
  | .duplicateSegmentId id first second =>
      "Duplicate segment id " ++ toString id.toNat ++ ": '" ++ first ++ "' and '" ++ second ++ "'"
  | .segmentOpenFailed p reason => "Failed to open segment " ++ p.display ++ ": " ++ reason
  | .backendUnavailable id      => "No storage backend available for storage id '" ++ id ++ "'"
  | .noSegmentsFound p          => "No segment files found in " ++ p.display
  | .persistFailed p reason     => "Failed to write metadata to " ++ p.display ++ ": " ++ reason
  | .storage text               => "Storage error: " ++ text
  | .metadata text              => "Metadata error: " ++ text
  | .config text                => "Configuration error: " ++ text

/-- Whether there was only nothing to do. -/
def isSoft (f : Failure) : Bool := f.kind == .noSegmentsFound

end Failure

end RecordingIndex
