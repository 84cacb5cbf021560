import RecordingIndex.Metadata
import RecordingIndex.Yaml.Style

/-!
# Index — the text of an index

The index of a recording is one document of nested mappings with a fixed order of keys.  A nested
mapping stands two columns to the right of its key; the dashes of a list stand below the key of the
list.
-/

namespace RecordingIndex.Index

open Yaml

/-- A key with what follows it, at a column. -/
def entry (column : Nat) (key : String) (after : List Char) : List Char :=
  Style.spaces column ++ key.toList ++ ':' :: after

/-- A key whose value stands on the lines below. -/
def heading (column : Nat) (key : String) : List Char := entry column key ['\n']

/-- A key and a number. -/
def numberEntry (column : Nat) (key : String) (n : Nat) : List Char :=
  entry column key (' ' :: Nat.toDigits 10 n ++ ['\n'])

/-- A key and a text. -/
def textEntry (column : Nat) (key : String) (s : String) : List Char :=
  entry column key (' ' :: Style.write (column + 2) s.toList)

/-- A key and a list, each item at the column of the key. -/
def listEntry {α : Type} (column : Nat) (key : String) (item : α → List Char) (xs : List α) :
    List Char :=
  if xs.isEmpty then entry column key " []\n".toList
  else heading column key ++ xs.flatMap fun x => Style.spaces column ++ '-' :: ' ' :: item x

/-- A topic and the number of its messages, after the dash at `column`. -/
def topicItem (column : Nat) (t : RecordedTopic) : List Char :=
  heading 0 "topic_metadata" ++
    textEntry (column + 4) "name" t.topic.name ++
    textEntry (column + 4) "type" t.topic.typeName ++
    textEntry (column + 4) "serialization_format" t.topic.serializationFormat ++
    textEntry (column + 4) "offered_qos_profiles" t.topic.offeredQosProfiles ++
    numberEntry (column + 2) "message_count" t.messageCount.toNat

/-- The text of an index. -/
def render (m : Metadata) : List Char :=
  heading 0 "rosbag2_bagfile_information" ++
    numberEntry 2 "version" m.version.toNat ++
    textEntry 2 "storage_identifier" m.storageIdentifier ++
    listEntry 2 "relative_file_paths" (fun p => Style.write 4 p.toList) m.relativePaths ++
    heading 2 "duration" ++
    numberEntry 4 "nanoseconds" m.duration.toNat ++
    heading 2 "starting_time" ++
    numberEntry 4 "nanoseconds_since_epoch" m.startingTime.toNat ++
    numberEntry 2 "message_count" m.messageCount.toNat ++
    listEntry 2 "topics_with_message_count" (topicItem 2) m.topics ++
    numberEntry 2 "bag_size" m.bagSize.toNat ++
    textEntry 2 "compression_format" m.compressionFormat ++
    textEntry 2 "compression_mode" m.compressionMode

/-- The text of an index, as a string. -/
def text (m : Metadata) : String := String.ofList (render m)

end RecordingIndex.Index
