import RecordingIndex.Index.Schema
import RecordingIndex.Index.Text
import RecordingIndex.Proofs.Yaml.Decoder
import RecordingIndex.Proofs.Yaml.Lines

/-!
# Proofs — Index — the text of an index is read back

The text of an index is a record of entries (`render_eq`), each of which its decoder takes for the
part of the description that it was written from (`takes_topic`, `takes_metadata`).  Hence every
description is read back from its text, whatever its texts hold (`parse_text`).
-/

namespace RecordingIndex.Index

open Yaml

/-! ### Nodes -/

/-- The node of a text. -/
def textNode (s : String) : Node := .scalar none s.toList (Spot.spelling (Style.of s.toList))

/-- The node of a number. -/
def numberNode (n : Nat) : Node := .scalar none (Nat.toDigits 10 n) .plain

/-- An entry whose value is a text, a number, a list or a record. -/
def textOf (column : Nat) (key s : String) : Keyed :=
  ⟨key.toList, ' ' :: Style.write (column + 2) s.toList, textNode s⟩

def numberOf (key : String) (n : Nat) : Keyed :=
  ⟨key.toList, ' ' :: Nat.toDigits 10 n ++ ['\n'], numberNode n⟩

def recordOf (column : Nat) (key : String) (es : List Keyed) : Keyed :=
  ⟨key.toList, '\n' :: Keyed.lines (column + 2) es, Keyed.mapping es⟩

def listOf {α : Type} (column : Nat) (key : String) (item : α → List Char) (node : α → Node)
    (xs : List α) : Keyed :=
  ⟨key.toList, if xs.isEmpty then " []\n".toList else '\n' :: itemLines column item xs,
    .sequence (xs.map node)⟩

/-- The entries of a topic. -/
def topicEntries (column : Nat) (t : Topic) : List Keyed :=
  [textOf column "name" t.name, textOf column "type" t.typeName,
   textOf column "serialization_format" t.serializationFormat,
   textOf column "offered_qos_profiles" t.offeredQosProfiles]

/-- The entries of a topic with the number of its messages. -/
def recordedTopicEntries (column : Nat) (t : RecordedTopic) : List Keyed :=
  [recordOf column "topic_metadata" (topicEntries (column + 2) t.topic),
   numberOf "message_count" t.messageCount.toNat]

/-- The entries of a description. -/
def metadataEntries (m : Metadata) : List Keyed :=
  [numberOf "version" m.version.toNat,
   textOf 2 "storage_identifier" m.storageIdentifier,
   listOf 2 "relative_file_paths" (fun p => Style.write 4 p.toList) textNode m.relativePaths,
   recordOf 2 "duration" [numberOf "nanoseconds" m.duration.toNat],
   recordOf 2 "starting_time" [numberOf "nanoseconds_since_epoch" m.startingTime.toNat],
   numberOf "message_count" m.messageCount.toNat,
   listOf 2 "topics_with_message_count" (topicItem 2)
    (fun t => Keyed.mapping (recordedTopicEntries 4 t)) m.topics,
   numberOf "bag_size" m.bagSize.toNat,
   textOf 2 "compression_format" m.compressionFormat,
   textOf 2 "compression_mode" m.compressionMode]

/-- The entry of an index. -/
def indexEntries (m : Metadata) : List Keyed :=
  [recordOf 0 "rosbag2_bagfile_information" (metadataEntries m)]

/-! ### The text of the entries -/

theorem lines_cons (column : Nat) (e : Keyed) (es : List Keyed) :
    Keyed.lines column (e :: es) = Style.spaces column ++ e.text ++ Keyed.lines column es := rfl

theorem numberEntry_eq (column : Nat) (key : String) (n : Nat) :
    numberEntry column key n = Style.spaces column ++ (numberOf key n).text := by
  simp [numberEntry, entry, numberOf, Keyed.text]

theorem textEntry_eq (column : Nat) (key s : String) :
    textEntry column key s = Style.spaces column ++ (textOf column key s).text := by
  simp [textEntry, entry, textOf, Keyed.text]

theorem heading_eq (column : Nat) (key : String) (es : List Keyed) :
    heading column key ++ Keyed.lines (column + 2) es =
      Style.spaces column ++ (recordOf column key es).text := by
  simp [heading, entry, recordOf, Keyed.text]

theorem listEntry_eq {α : Type} (column : Nat) (key : String) (item : α → List Char)
    (node : α → Node) (xs : List α) :
    listEntry column key item xs =
      Style.spaces column ++ (listOf column key item node xs).text := by
  cases xs <;> simp [listEntry, heading, entry, listOf, Keyed.text, itemLines]

/-- What is written behind a dash is a record without the indentation of its first line. -/
theorem lines_recordedTopicEntries (column : Nat) (t : RecordedTopic) :
    Keyed.lines (column + 2) (recordedTopicEntries (column + 2) t) =
      Style.spaces (column + 2) ++ topicItem column t := by
  simp only [recordedTopicEntries, topicItem, lines_cons, ← heading_eq, ← numberEntry_eq,
    topicEntries, ← textEntry_eq]
  simp [heading, entry, Keyed.lines, Style.spaces]

/-- **The text of an index** is made of its entries. -/
theorem render_eq (m : Metadata) : render m = Keyed.lines 0 (indexEntries m) := by
  simp only [indexEntries, lines_cons, ← heading_eq, metadataEntries, ← numberEntry_eq,
    ← textEntry_eq, ← listEntry_eq]
  simp [render, Keyed.lines]

/-! ### Every entry stands for its node -/

section

variable {column : Nat} {key : String} (h : Keyed.IsName key.toList)
include h

theorem isAt_textOf (s : String) : (textOf column key s).IsAt column := ⟨h, isValue_text s.toList⟩

theorem isAt_numberOf (n : Nat) : (numberOf key n).IsAt column := ⟨h, isValue_number n⟩

theorem isAt_recordOf {es : List Keyed} (hne : es ≠ []) (hes : ∀ e ∈ es, e.IsAt (column + 2)) :
    (recordOf column key es).IsAt column :=
  ⟨h, Keyed.isValue_record hne hes⟩

theorem isAt_listOf {α : Type} {item : α → List Char} {node : α → Node} {xs : List α}
    (hxs : ∀ x ∈ xs, IsItem column (item x) (node x)) :
    (listOf column key item node xs).IsAt column :=
  ⟨h, isValue_list hxs⟩

end

theorem isAt_topicEntries (column : Nat) (t : Topic) :
    ∀ e ∈ topicEntries column t, e.IsAt column := by
  simp only [topicEntries, List.forall_mem_cons, List.not_mem_nil, false_implies, implies_true,
    and_true]
  exact ⟨isAt_textOf (by decide) _, isAt_textOf (by decide) _, isAt_textOf (by decide) _,
    isAt_textOf (by decide) _⟩

theorem isAt_recordedTopicEntries (column : Nat) (t : RecordedTopic) :
    ∀ e ∈ recordedTopicEntries column t, e.IsAt column := by
  simp only [recordedTopicEntries, List.forall_mem_cons, List.not_mem_nil, false_implies,
    implies_true, and_true]
  exact ⟨isAt_recordOf (by decide) (by simp [topicEntries]) (isAt_topicEntries _ _),
    isAt_numberOf (by decide) _⟩

theorem isAt_metadataEntries (m : Metadata) : ∀ e ∈ metadataEntries m, e.IsAt 2 := by
  have hnumber (key : String) (n : Nat) (h : Keyed.IsName key.toList) :
      ∀ e ∈ [numberOf key n], e.IsAt 4 := by
    simpa using isAt_numberOf h n
  simp only [metadataEntries, List.forall_mem_cons, List.not_mem_nil, false_implies,
    implies_true, and_true]
  refine ⟨isAt_numberOf (by decide) _, isAt_textOf (by decide) _, isAt_listOf (by decide) ?_,
    isAt_recordOf (by decide) (by simp) (hnumber _ _ (by decide)),
    isAt_recordOf (by decide) (by simp) (hnumber _ _ (by decide)), isAt_numberOf (by decide) _,
    isAt_listOf (by decide) ?_, isAt_numberOf (by decide) _, isAt_textOf (by decide) _,
    isAt_textOf (by decide) _⟩
  · exact fun p _ => isItem_text p.toList
  · exact fun t _ => Keyed.isItem_record (by simp [recordedTopicEntries])
      (isAt_recordedTopicEntries 4 t) (lines_recordedTopicEntries 2 t)

theorem isAt_indexEntries (m : Metadata) : ∀ e ∈ indexEntries m, e.IsAt 0 := by
  simp only [indexEntries, List.forall_mem_cons, List.not_mem_nil, false_implies, implies_true,
    and_true]
  exact isAt_recordOf (by decide) (by simp [metadataEntries]) (isAt_metadataEntries m)

/-- The document of an index. -/
theorem ofText_render (m : Metadata) :
    ∃ size,
      Document.ofText (render m) = ⟨Keyed.mapping (indexEntries m), [], size, none, true⟩ := by
  rw [render_eq]
  exact Keyed.ofText_lines (by simp [indexEntries]) (isAt_indexEntries m)

/-! ### What is decoded -/

open Yaml.Decoder (Takes Fills takes_record takes_list takes_word32 takes_word64)

theorem takes_textNode (s : String) : Takes .text (textNode s) s := by
  have h := Decoder.takes_text none s.toList (Spot.spelling (Style.of s.toList))
  rwa [String.ofList_toList] at h

theorem takes_topic (column : Nat) (t : Topic) :
    Takes topic (Keyed.mapping (topicEntries column t)) t :=
  takes_record
    (.named rfl rfl (takes_textNode t.name) <| .named rfl rfl (takes_textNode t.typeName) <|
      .named rfl rfl (takes_textNode t.serializationFormat) <|
      .named rfl rfl (takes_textNode t.offeredQosProfiles) .nil) rfl

theorem takes_recordedTopic (column : Nat) (t : RecordedTopic) :
    Takes recordedTopic (Keyed.mapping (recordedTopicEntries column t)) t :=
  takes_record
    (.named rfl rfl (takes_topic (column + 2) t.topic) <|
      .named rfl rfl (takes_word64 (Reading.writes_toDigits _)) .nil) rfl

theorem takes_wrapped (name key : String) (n : UInt64) :
    Takes (wrapped name key) (Keyed.mapping [numberOf key n.toNat]) n := by
  -- A wrapped number is a record of one field, which is the whole record.
  let field : Decoder.Field (Option UInt64) := .named key id (fun v _ => some v) .word64
  have hfind : [field].find? (·.name = key) = some field := by
    rw [List.find?_cons_of_pos]
    exact decide_eq_true rfl
  have hfills :
      Fills [field] none [(.scalar none key.toList .plain, numberNode n.toNat)] (some n) :=
    .named hfind rfl (takes_word64 (Reading.writes_toDigits _)) .nil
  exact takes_record hfills rfl

theorem takes_metadata (m : Metadata) : Takes metadata (Keyed.mapping (metadataEntries m)) m := by
  have hpaths : Takes (.list .text) (.sequence (m.relativePaths.map textNode)) m.relativePaths :=
    takes_list (List.forall₂_map_left_iff.mpr
      (List.forall₂_same.mpr fun p _ => takes_textNode p))
  have htopics : Takes (.list recordedTopic)
      (.sequence (m.topics.map fun t => Keyed.mapping (recordedTopicEntries 4 t))) m.topics :=
    takes_list (List.forall₂_map_left_iff.mpr
      (List.forall₂_same.mpr fun t _ => takes_recordedTopic 4 t))
  exact takes_record
    (.named rfl rfl (takes_word32 (Reading.writes_toDigits _)) <|
      .named rfl rfl (takes_textNode m.storageIdentifier) <|
      .named rfl rfl hpaths <|
      .named rfl rfl (takes_wrapped "DurationField" "nanoseconds" m.duration) <|
      .named rfl rfl (takes_wrapped "StartingTimeField" "nanoseconds_since_epoch" m.startingTime) <|
      .named rfl rfl (takes_word64 (Reading.writes_toDigits _)) <|
      .named rfl rfl htopics <|
      .named rfl rfl (takes_word64 (Reading.writes_toDigits _)) <|
      .named rfl rfl (takes_textNode m.compressionFormat) <|
      .named rfl rfl (takes_textNode m.compressionMode) .nil) rfl

theorem takes_document (m : Metadata) : Takes document (Keyed.mapping (indexEntries m)) m :=
  takes_record (.named rfl rfl (takes_metadata m) .nil) rfl

/-- The document of an index decodes to the description. -/
theorem decode_render (m : Metadata) : (Document.ofText (render m)).decode document = .ok m := by
  obtain ⟨size, hdocument⟩ := ofText_render m
  -- No reference is followed, so the bound on references is not touched.
  have htakes := takes_document m ⟨Keyed.mapping (indexEntries m), [], size, none, true⟩ []
    (referencesPerEvent * size)
  rw [hdocument, Document.decode, htakes]
  rfl

/-- **Every description** is read back from its text. -/
theorem parse_text (m : Metadata) : parse (text m) = .ok m := by
  rw [parse, text, String.toList_ofList, decode_render]
  rfl

end RecordingIndex.Index
