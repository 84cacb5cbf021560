import RecordingIndex.Failure
import RecordingIndex.Metadata
import RecordingIndex.Yaml.Decoder

/-!
# Index — what is read from the text of an index

Each record of the document has a form with a place for every field, filled as the entries come, and
a rule that turns the full form into a value.  The sizes and the compression of a recording may be
left out, and so may the profiles of a topic; every other field must be there.
-/

namespace RecordingIndex.Index

open Yaml (Complaint Decoder Document)

/-! ### Topics -/

/-- The form of a topic. -/
structure TopicForm where
  name                : Option String := none
  typeName            : Option String := none
  serializationFormat : Option String := none
  offeredQosProfiles  : Option String := none

namespace TopicForm

/-- The fields of a topic. -/
def fields : List (Decoder.Field TopicForm) :=
  [.named "name" name (fun v s => { s with name := some v }) .text,
   .named "type" typeName (fun v s => { s with typeName := some v }) .text,
   .named "serialization_format" serializationFormat
    (fun v s => { s with serializationFormat := some v }) .text,
   .named "offered_qos_profiles" offeredQosProfiles
    (fun v s => { s with offeredQosProfiles := some v }) .text]

/-- The topic of a form. -/
def finish (s : TopicForm) : Except Mismatch Topic := do
  let name ← Mismatch.require "name" s.name
  let typeName ← Mismatch.require "type" s.typeName
  let format ← Mismatch.require "serialization_format" s.serializationFormat
  return ⟨name, typeName, format, s.offeredQosProfiles.getD ""⟩

end TopicForm

/-- A topic. -/
def topic : Decoder Topic := .record "TopicMetadata" TopicForm.fields {} TopicForm.finish

/-- The form of a topic and the number of its messages. -/
structure RecordedTopicForm where
  topic        : Option Topic := none
  messageCount : Option UInt64 := none

namespace RecordedTopicForm

/-- The fields of a recorded topic. -/
def fields : List (Decoder.Field RecordedTopicForm) :=
  [.named "topic_metadata" topic (fun v s => { s with topic := some v }) Index.topic,
   .named "message_count" messageCount (fun v s => { s with messageCount := some v }) .word64]

/-- The recorded topic of a form. -/
def finish (s : RecordedTopicForm) : Except Mismatch RecordedTopic := do
  let topic ← Mismatch.require "topic_metadata" s.topic
  let messageCount ← Mismatch.require "message_count" s.messageCount
  return ⟨topic, messageCount⟩

end RecordedTopicForm

/-- A topic and the number of its messages. -/
def recordedTopic : Decoder RecordedTopic :=
  .record "TopicInfo" RecordedTopicForm.fields {} RecordedTopicForm.finish

/-! ### The recording -/

/-- A record of one number. -/
def wrapped (name key : String) : Decoder UInt64 :=
  .record name [.named key id (fun v _ => some v) .word64] none (Mismatch.require key)

/-- The form of a description. -/
structure MetadataForm where
  version           : Option UInt32 := none
  storageIdentifier : Option String := none
  relativePaths     : Option (List String) := none
  duration          : Option UInt64 := none
  startingTime      : Option UInt64 := none
  messageCount      : Option UInt64 := none
  topics            : Option (List RecordedTopic) := none
  bagSize           : Option UInt64 := none
  compressionFormat : Option String := none
  compressionMode   : Option String := none

namespace MetadataForm

/-- The fields of a description. -/
def fields : List (Decoder.Field MetadataForm) :=
  [.named "version" version (fun v s => { s with version := some v }) .word32,
   .named "storage_identifier" storageIdentifier
    (fun v s => { s with storageIdentifier := some v }) .text,
   .named "relative_file_paths" relativePaths
    (fun v s => { s with relativePaths := some v }) (.list .text),
   .named "duration" duration (fun v s => { s with duration := some v })
    (wrapped "DurationField" "nanoseconds"),
   .named "starting_time" startingTime (fun v s => { s with startingTime := some v })
    (wrapped "StartingTimeField" "nanoseconds_since_epoch"),
   .named "message_count" messageCount (fun v s => { s with messageCount := some v }) .word64,
   .named "topics_with_message_count" topics (fun v s => { s with topics := some v })
    (.list recordedTopic),
   .named "bag_size" bagSize (fun v s => { s with bagSize := some v }) .word64,
   .named "compression_format" compressionFormat
    (fun v s => { s with compressionFormat := some v }) .text,
   .named "compression_mode" compressionMode
    (fun v s => { s with compressionMode := some v }) .text]

/-- The description of a form. -/
def finish (s : MetadataForm) : Except Mismatch Metadata := do
  let version ← Mismatch.require "version" s.version
  let storageIdentifier ← Mismatch.require "storage_identifier" s.storageIdentifier
  let relativePaths ← Mismatch.require "relative_file_paths" s.relativePaths
  let duration ← Mismatch.require "duration" s.duration
  let startingTime ← Mismatch.require "starting_time" s.startingTime
  let messageCount ← Mismatch.require "message_count" s.messageCount
  let topics ← Mismatch.require "topics_with_message_count" s.topics
  return { version, storageIdentifier, relativePaths, startingTime, duration, messageCount, topics
           bagSize           := s.bagSize.getD 0
           compressionFormat := s.compressionFormat.getD ""
           compressionMode   := s.compressionMode.getD "" }

end MetadataForm

/-- The description of a recording. -/
def metadata : Decoder Metadata :=
  .record "BagfileInformation" MetadataForm.fields {} MetadataForm.finish

/-- The document of an index. -/
def document : Decoder Metadata :=
  .record "MetadataDocument"
    [.named "rosbag2_bagfile_information" id (fun v _ => some v) metadata] none
    (Mismatch.require "rosbag2_bagfile_information")

/-! ### Texts -/

/-- The failure of a text that is no index. -/
def failure (d : Document) (c : Complaint) : Failure :=
  .metadata ("YAML parse error: " ++ c.message d.fault)

/-- The description that the text of an index holds. -/
def parse (text : String) : Except Failure Metadata :=
  let d := Document.ofText text.toList
  (d.decode document).mapError (failure d)

end RecordingIndex.Index
