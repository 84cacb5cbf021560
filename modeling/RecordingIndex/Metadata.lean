/-!
# Metadata — what an index records

The description of a recording: its segments, its time range, its topics with their message counts,
and how its segments are compressed.
-/

namespace RecordingIndex

/-- A number, or the greatest of 64 bits if it does not fit. -/
def clamp (n : Nat) : UInt64 := UInt64.ofNat (min n (UInt64.size - 1))

/-- The sum of two numbers, or the greatest number if it does not fit. -/
def saturatingAdd (a b : UInt64) : UInt64 := clamp (a.toNat + b.toNat)

/-- The identity of a topic.  The quality-of-service profiles are the text that was recorded. -/
structure Topic where
  name                : String
  typeName            : String
  serializationFormat : String
  offeredQosProfiles  : String
  deriving DecidableEq

/-- A topic and the number of its messages. -/
structure RecordedTopic where
  topic        : Topic
  messageCount : UInt64
  deriving DecidableEq

/-- The description of a recording.  `relativePaths` names the segments in order, `bagSize` is the
sum of their sizes when the description was made, times are in nanoseconds. -/
structure Metadata where
  version           : UInt32
  storageIdentifier : String
  relativePaths     : List String
  startingTime      : UInt64
  duration          : UInt64
  messageCount      : UInt64
  topics            : List RecordedTopic
  bagSize           : UInt64
  compressionFormat : String
  compressionMode   : String
  deriving DecidableEq

namespace Metadata

/-- The version of descriptions made anew. -/
def currentVersion : UInt32 := 4

/-- The name of the index file in the directory of a recording. -/
def fileName : String := "metadata.yaml"

/-- The description of nothing. -/
def empty : Metadata := ⟨0, "", [], 0, 0, 0, [], 0, "", ""⟩

/-- The number of topics. -/
def topicCount (m : Metadata) : Nat := m.topics.length

/-- The end of the time range, or the last representable time. -/
def endingTime (m : Metadata) : UInt64 := saturatingAdd m.startingTime m.duration

/-- The first topic of a name. -/
def topic? (m : Metadata) (name : String) : Option RecordedTopic :=
  m.topics.find? fun t => t.topic.name = name

/-- The identities of the topics, in order. -/
def topicIdentities (m : Metadata) : List Topic := m.topics.map RecordedTopic.topic

end Metadata

/-- The storage identifier of recordings that name no other. -/
def defaultStorageId : String := "sqlite3"

end RecordingIndex
