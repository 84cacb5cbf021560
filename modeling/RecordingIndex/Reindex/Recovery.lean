import RecordingIndex.Backend
import RecordingIndex.Segment.Basic

/-!
# Reindex — the snapshot of a segment

The description of a recording is recovered from one of its segments.  The segment is open only
while it is read, and every failure of the backend is one to open the segment.
-/

namespace RecordingIndex.Reindex

/-- The description drawn from a segment. -/
structure Snapshot where
  metadata : Metadata
  source   : Path

/-- Whether a snapshot lists any topics. -/
def Snapshot.hasTopics (s : Snapshot) : Bool := !s.metadata.topics.isEmpty

/-- The failure of a backend as one to open the segment at a path. -/
def asOpenFailure (path : Path) : Failure → Failure
  | .segmentOpenFailed p reason => .segmentOpenFailed p reason
  | f                           => .segmentOpenFailed path f.message

/-- The report on a snapshot. -/
def Snapshot.report (s : Snapshot) (storageId : String) : Traced Unit :=
  if s.hasTopics then
    Traced.report .info .reindex "Recovered metadata snapshot"
      [("segment", .shown s.source.display), ("storage_id", .quoted storageId),
       ("topics", .count s.metadata.topicCount), ("messages", .count s.metadata.messageCount.toNat)]
  else
    Traced.report .warn .reindex "No topics were listed in recovered metadata"
      [("segment", .shown s.source.display), ("storage_id", .quoted storageId)]

/-- Takes the snapshot of a segment. -/
def recover (b : Backend) (fs : FileSystem) (path : Path) : Attempt Snapshot := do
  let metadata ← ExceptT.adapt (asOpenFailure path) (b.visit fs path Handle.metadata)
  let snapshot : Snapshot := ⟨metadata, path⟩
  monadLift (snapshot.report b.storageId)
  return snapshot

end RecordingIndex.Reindex
