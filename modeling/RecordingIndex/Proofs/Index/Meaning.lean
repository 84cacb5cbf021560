import RecordingIndex.Index.Schema
import RecordingIndex.Proofs.Except
import RecordingIndex.Proofs.Index.RoundTrip
import RecordingIndex.Proofs.Yaml.Record

/-!
# Proofs — Index — what the tree of a document means

`IsIndex` says which description a tree stands for, without regard to how it is read: which entries
must be there, what each of them is, and what holds where an entry that may be missing is missing.
The order of entries and the entries of other names have no part in it, and every number is the one
that its text writes.

Reading decides it: of every simple tree that is the only document of a text, the description that
it stands for is read, and one that stands for none is refused (`parse_of_presents`).
-/

namespace RecordingIndex.Index

open Yaml
open Yaml.Decoder (Decides Slot IsForm Lawful)

/-! ### Trees that stand for a description -/

/-- The node is a topic. -/
structure IsTopic (n : Node) (t : Topic) : Prop where
  name                : n.Gives "name" IsText t.name
  typeName            : n.Gives "type" IsText t.typeName
  serializationFormat : n.Gives "serialization_format" IsText t.serializationFormat
  offeredQosProfiles  : n.GivesOr "offered_qos_profiles" "" IsText t.offeredQosProfiles

/-- The node is a topic with the number of its messages. -/
structure IsRecordedTopic (n : Node) (t : RecordedTopic) : Prop where
  topic        : n.Gives "topic_metadata" IsTopic t.topic
  messageCount : n.Gives "message_count" IsWord64 t.messageCount

/-- The node is a description. -/
structure IsDescription (n : Node) (m : Metadata) : Prop where
  version           : n.Gives "version" IsWord32 m.version
  storageIdentifier : n.Gives "storage_identifier" IsText m.storageIdentifier
  relativePaths     : n.Gives "relative_file_paths" (IsList IsText) m.relativePaths
  duration          : n.Gives "duration" (·.Gives "nanoseconds" IsWord64) m.duration
  startingTime      :
    n.Gives "starting_time" (·.Gives "nanoseconds_since_epoch" IsWord64) m.startingTime
  messageCount      : n.Gives "message_count" IsWord64 m.messageCount
  topics            : n.Gives "topics_with_message_count" (IsList IsRecordedTopic) m.topics
  bagSize           : n.GivesOr "bag_size" 0 IsWord64 m.bagSize
  compressionFormat : n.GivesOr "compression_format" "" IsText m.compressionFormat
  compressionMode   : n.GivesOr "compression_mode" "" IsText m.compressionMode

/-- The node is the root of an index. -/
def IsIndex (n : Node) (m : Metadata) : Prop :=
  n.Gives "rosbag2_bagfile_information" IsDescription m

/-! ### Topics -/

namespace TopicForm

/-- The fields of a topic with their meanings. -/
def slots : List (Slot TopicForm) :=
  [⟨"name", name, fun v s => { s with name := some v }, .text, IsText⟩,
   ⟨"type", typeName, fun v s => { s with typeName := some v }, .text, IsText⟩,
   ⟨"serialization_format", serializationFormat,
    fun v s => { s with serializationFormat := some v }, .text, IsText⟩,
   ⟨"offered_qos_profiles", offeredQosProfiles,
    fun v s => { s with offeredQosProfiles := some v }, .text, IsText⟩]

theorem lawful_slots : Lawful slots {} where
  text := by decide
  distinct := by decide
  get_empty := by simp [slots]
  get_put := by simp [slots]
  get_put_ne := by simp [slots]
  ext := by
    rintro ⟨⟩ ⟨⟩
    simp [slots]
  decides := by
    simp only [slots, List.forall_mem_cons, List.not_mem_nil, false_implies, implies_true, and_true]
    exact ⟨Decoder.decides_text, Decoder.decides_text, Decoder.decides_text, Decoder.decides_text⟩

theorem isForm_iff {n : Node} {s : TopicForm} :
    IsForm slots n s ↔ n.Says "name" IsText s.name ∧ n.Says "type" IsText s.typeName ∧
      n.Says "serialization_format" IsText s.serializationFormat ∧
        n.Says "offered_qos_profiles" IsText s.offeredQosProfiles := by
  simp only [IsForm, slots, List.forall_mem_cons, List.not_mem_nil, false_implies, implies_true,
    and_true]

theorem finish_eq_ok_iff {s : TopicForm} {t : Topic} :
    s.finish = .ok t ↔ s.name = some t.name ∧ s.typeName = some t.typeName ∧
      s.serializationFormat = some t.serializationFormat ∧
        s.offeredQosProfiles.getD "" = t.offeredQosProfiles := by
  simp only [finish, bind_eq_ok_iff, require_eq_ok_iff]
  constructor
  · rintro ⟨_, hname, _, htype, _, hformat, heq⟩
    cases heq
    exact ⟨hname, htype, hformat, rfl⟩
  · rintro ⟨hname, htype, hformat, hprofiles⟩
    exact ⟨_, hname, _, htype, _, hformat, by rw [hprofiles]; rfl⟩

end TopicForm

theorem decides_topic {n : Node} (h : n.IsSimple) : Decides topic n (IsTopic n) := by
  refine (TopicForm.lawful_slots.decides_record rfl h).congr fun t => ?_
  simp only [TopicForm.isForm_iff, TopicForm.finish_eq_ok_iff]
  constructor
  · rintro ⟨hname, htype, hformat, profiles, hprofiles, hdefault⟩
    exact ⟨⟨some t.name, some t.typeName, some t.serializationFormat, profiles⟩,
      ⟨hname, htype, hformat, hprofiles⟩, rfl, rfl, rfl, hdefault⟩
  · rintro ⟨s, ⟨hname, htype, hformat, hprofiles⟩, hname', htype', hformat', hdefault⟩
    exact ⟨hname.gives hname', htype.gives htype', hformat.gives hformat', _, hprofiles, hdefault⟩

namespace RecordedTopicForm

/-- The fields of a recorded topic with their meanings. -/
def slots : List (Slot RecordedTopicForm) :=
  [⟨"topic_metadata", topic, fun v s => { s with topic := some v }, Index.topic, IsTopic⟩,
   ⟨"message_count", messageCount, fun v s => { s with messageCount := some v }, .word64,
    IsWord64⟩]

theorem lawful_slots : Lawful slots {} where
  text := by decide
  distinct := by decide
  get_empty := by simp [slots]
  get_put := by simp [slots]
  get_put_ne := by simp [slots]
  ext := by
    rintro ⟨⟩ ⟨⟩
    simp [slots]
  decides := by
    simp only [slots, List.forall_mem_cons, List.not_mem_nil, false_implies, implies_true, and_true]
    exact ⟨decides_topic, Decoder.decides_word64⟩

theorem isForm_iff {n : Node} {s : RecordedTopicForm} :
    IsForm slots n s ↔ n.Says "topic_metadata" IsTopic s.topic ∧
      n.Says "message_count" IsWord64 s.messageCount := by
  simp only [IsForm, slots, List.forall_mem_cons, List.not_mem_nil, false_implies, implies_true,
    and_true]

theorem finish_eq_ok_iff {s : RecordedTopicForm} {t : RecordedTopic} :
    s.finish = .ok t ↔ s.topic = some t.topic ∧ s.messageCount = some t.messageCount := by
  simp only [finish, bind_eq_ok_iff, require_eq_ok_iff]
  constructor
  · rintro ⟨_, htopic, _, hcount, heq⟩
    cases heq
    exact ⟨htopic, hcount⟩
  · rintro ⟨htopic, hcount⟩
    exact ⟨_, htopic, _, hcount, rfl⟩

end RecordedTopicForm

theorem decides_recordedTopic {n : Node} (h : n.IsSimple) :
    Decides recordedTopic n (IsRecordedTopic n) := by
  refine (RecordedTopicForm.lawful_slots.decides_record rfl h).congr fun t => ?_
  simp only [RecordedTopicForm.isForm_iff, RecordedTopicForm.finish_eq_ok_iff]
  constructor
  · rintro ⟨htopic, hcount⟩
    exact ⟨⟨some t.topic, some t.messageCount⟩, ⟨htopic, hcount⟩, rfl, rfl⟩
  · rintro ⟨s, ⟨htopic, hcount⟩, htopic', hcount'⟩
    exact ⟨htopic.gives htopic', hcount.gives hcount'⟩

/-! ### The recording -/

theorem decides_wrapped {n : Node} (name : String) {key : String}
    (hkey : Reading.of key.toList = .text) (h : n.IsSimple) :
    Decides (wrapped name key) n (n.Gives key IsWord64) :=
  Decoder.decides_singleton hkey Decoder.decides_word64 h

namespace MetadataForm

/-- The fields of a description with their meanings. -/
def slots : List (Slot MetadataForm) :=
  [⟨"version", version, fun v s => { s with version := some v }, .word32, IsWord32⟩,
   ⟨"storage_identifier", storageIdentifier, fun v s => { s with storageIdentifier := some v },
    .text, IsText⟩,
   ⟨"relative_file_paths", relativePaths, fun v s => { s with relativePaths := some v },
    .list .text, IsList IsText⟩,
   ⟨"duration", duration, fun v s => { s with duration := some v },
    wrapped "DurationField" "nanoseconds", (·.Gives "nanoseconds" IsWord64)⟩,
   ⟨"starting_time", startingTime, fun v s => { s with startingTime := some v },
    wrapped "StartingTimeField" "nanoseconds_since_epoch",
    (·.Gives "nanoseconds_since_epoch" IsWord64)⟩,
   ⟨"message_count", messageCount, fun v s => { s with messageCount := some v }, .word64,
    IsWord64⟩,
   ⟨"topics_with_message_count", topics, fun v s => { s with topics := some v },
    .list recordedTopic, IsList IsRecordedTopic⟩,
   ⟨"bag_size", bagSize, fun v s => { s with bagSize := some v }, .word64, IsWord64⟩,
   ⟨"compression_format", compressionFormat, fun v s => { s with compressionFormat := some v },
    .text, IsText⟩,
   ⟨"compression_mode", compressionMode, fun v s => { s with compressionMode := some v },
    .text, IsText⟩]

theorem lawful_slots : Lawful slots {} where
  text := by decide
  distinct := by decide
  get_empty := by simp [slots]
  get_put := by simp [slots]
  get_put_ne := by simp [slots]
  ext := by
    rintro ⟨⟩ ⟨⟩
    simp [slots]
  decides := by
    simp only [slots, List.forall_mem_cons, List.not_mem_nil, false_implies, implies_true, and_true]
    exact ⟨Decoder.decides_word32, Decoder.decides_text, Decoder.decides_list Decoder.decides_text,
      decides_wrapped _ (by decide), decides_wrapped _ (by decide), Decoder.decides_word64,
      Decoder.decides_list decides_recordedTopic, Decoder.decides_word64, Decoder.decides_text,
      Decoder.decides_text⟩

theorem isForm_iff {n : Node} {s : MetadataForm} :
    IsForm slots n s ↔ n.Says "version" IsWord32 s.version ∧
      n.Says "storage_identifier" IsText s.storageIdentifier ∧
      n.Says "relative_file_paths" (IsList IsText) s.relativePaths ∧
      n.Says "duration" (·.Gives "nanoseconds" IsWord64) s.duration ∧
      n.Says "starting_time" (·.Gives "nanoseconds_since_epoch" IsWord64) s.startingTime ∧
      n.Says "message_count" IsWord64 s.messageCount ∧
      n.Says "topics_with_message_count" (IsList IsRecordedTopic) s.topics ∧
      n.Says "bag_size" IsWord64 s.bagSize ∧
      n.Says "compression_format" IsText s.compressionFormat ∧
      n.Says "compression_mode" IsText s.compressionMode := by
  simp only [IsForm, slots, List.forall_mem_cons, List.not_mem_nil, false_implies, implies_true,
    and_true]

theorem finish_eq_ok_iff {s : MetadataForm} {m : Metadata} :
    s.finish = .ok m ↔ s.version = some m.version ∧
      s.storageIdentifier = some m.storageIdentifier ∧ s.relativePaths = some m.relativePaths ∧
      s.duration = some m.duration ∧ s.startingTime = some m.startingTime ∧
      s.messageCount = some m.messageCount ∧ s.topics = some m.topics ∧
      s.bagSize.getD 0 = m.bagSize ∧ s.compressionFormat.getD "" = m.compressionFormat ∧
      s.compressionMode.getD "" = m.compressionMode := by
  simp only [finish, bind_eq_ok_iff, require_eq_ok_iff]
  constructor
  · rintro ⟨_, hversion, _, hstorage, _, hpaths, _, hduration, _, hstart, _, hcount, _, htopics,
      heq⟩
    cases heq
    exact ⟨hversion, hstorage, hpaths, hduration, hstart, hcount, htopics, rfl, rfl, rfl⟩
  · rintro ⟨hversion, hstorage, hpaths, hduration, hstart, hcount, htopics, hsize, hformat, hmode⟩
    refine ⟨_, hversion, _, hstorage, _, hpaths, _, hduration, _, hstart, _, hcount, _, htopics, ?_⟩
    rw [hsize, hformat, hmode]
    rfl

end MetadataForm

theorem decides_metadata {n : Node} (h : n.IsSimple) : Decides metadata n (IsDescription n) := by
  refine (MetadataForm.lawful_slots.decides_record rfl h).congr fun m => ?_
  simp only [MetadataForm.isForm_iff, MetadataForm.finish_eq_ok_iff]
  constructor
  · rintro ⟨hversion, hstorage, hpaths, hduration, hstart, hcount, htopics, ⟨size, hsize, hsize'⟩,
      ⟨format, hformat, hformat'⟩, mode, hmode, hmode'⟩
    exact ⟨⟨some m.version, some m.storageIdentifier, some m.relativePaths, some m.duration,
      some m.startingTime, some m.messageCount, some m.topics, size, format, mode⟩,
      ⟨hversion, hstorage, hpaths, hduration, hstart, hcount, htopics, hsize, hformat, hmode⟩,
      rfl, rfl, rfl, rfl, rfl, rfl, rfl, hsize', hformat', hmode'⟩
  · rintro ⟨s, ⟨hversion, hstorage, hpaths, hduration, hstart, hcount, htopics, hsize, hformat,
      hmode⟩, hversion', hstorage', hpaths', hduration', hstart', hcount', htopics', hsize',
      hformat', hmode'⟩
    exact ⟨hversion.gives hversion', hstorage.gives hstorage', hpaths.gives hpaths',
      hduration.gives hduration', hstart.gives hstart', hcount.gives hcount',
      htopics.gives htopics', ⟨_, hsize, hsize'⟩, ⟨_, hformat, hformat'⟩, _, hmode, hmode'⟩

/-- **The tree of an index** is decided. -/
theorem decides_document {n : Node} (h : n.IsSimple) : Decides document n (IsIndex n) :=
  Decoder.decides_singleton (by decide) decides_metadata h

/-! ### Texts -/

/-- A text is a single document, with a tree. -/
structure Presents (text : String) (root : Node) : Prop where
  root   : (Document.ofText text.toList).root = root
  fault  : (Document.ofText text.toList).fault = none
  isLast : (Document.ofText text.toList).isLast = true

variable {text : String} {root : Node}

/-- **A simple tree** that is the only document of a text is read as the description that it stands
for; one that stands for none is no index. -/
theorem parse_of_presents (htext : Presents text root) (hroot : root.IsSimple) :
    (∀ m, parse text = .ok m ↔ IsIndex root m) ∧
      ((∀ m, ¬ IsIndex root m) → ∃ reason, parse text = .error (.metadata reason)) := by
  obtain ⟨rfl, hfault, hlast⟩ := htext
  obtain ⟨hok, herror⟩ := (decides_document hroot).decode hfault hlast
  refine ⟨fun m => ?_, fun hnone => ?_⟩
  · rw [← hok, parse]
    cases Document.decode (Document.ofText text.toList) document <;> simp [Except.mapError]
  · obtain ⟨c, hc⟩ := herror hnone
    exact ⟨_, by rw [parse, hc]; rfl⟩

/-! ### An older index -/

section

variable {es : List Keyed} {e : Keyed} {key : String}

theorem isSimple_keyed (hnames : (es.map Keyed.name).Nodup) (hnodes : ∀ e ∈ es, e.node.IsSimple) :
    (Keyed.mapping es).IsSimple := by
  refine .mapping ?_ ?_ ?_
  · exact List.forall_mem_map.mpr fun e _ => ⟨e.name, .plain, rfl⟩
  · exact List.forall_mem_map.mpr hnodes
  · exact List.pairwise_map.mpr ((List.pairwise_map.mp hnames).imp fun hne hsame => hne hsame.1)

theorem has_keyed (i : Nat) (he : es[i]? = some e) (hkey : e.name = key.toList) :
    (Keyed.mapping es).Has key e.node :=
  Node.has_mapping.mpr ⟨_, List.mem_map_of_mem (List.mem_of_getElem? he), .plain, by rw [hkey]⟩

theorem not_has_keyed (hkey : key.toList ∉ es.map Keyed.name) :
    ∀ v, ¬ (Keyed.mapping es).Has key v := by
  intro v hhas
  obtain ⟨_, he, spelling, heq⟩ := Node.has_mapping.mp hhas
  obtain ⟨e, hmem, rfl⟩ := List.mem_map.mp he
  simp only [Prod.mk.injEq, Node.scalar.injEq] at heq
  exact hkey (heq.1.2.1 ▸ List.mem_map_of_mem hmem)

end

namespace Sample

/-- A topic without profiles, the number of its messages first. -/
def topicEntries : List Keyed :=
  [numberOf "message_count" 3,
   recordOf 4 "topic_metadata"
    [textOf 6 "type" "std_msgs/msg/String", textOf 6 "name" "/chat",
     textOf 6 "serialization_format" "cdr"]]

/-- The entries of a description in an order of their own, one of them unknown, without a size and a
compression. -/
def entries (version : Nat) : List Keyed :=
  [numberOf "message_count" 3,
   listOf 2 "ros_distro" (fun s => Style.write 4 s.toList) textNode ["foxy", "null"],
   recordOf 2 "starting_time" [numberOf "nanoseconds_since_epoch" 1586406456763032325],
   recordOf 2 "duration" [numberOf "nanoseconds" 151137181],
   numberOf "version" version,
   textOf 2 "storage_identifier" "sqlite3",
   listOf 2 "relative_file_paths" (fun s => Style.write 4 s.toList) textNode ["chat_0.db3"],
   listOf 2 "topics_with_message_count" (fun es => (Keyed.lines 4 es).drop 4) Keyed.mapping
    [topicEntries]]

/-- The tree of the index. -/
def tree (version : Nat) : Node :=
  Keyed.mapping [recordOf 0 "rosbag2_bagfile_information" (entries version)]

/-- The text of the index. -/
def older (version : Nat) : String :=
  String.ofList (Keyed.lines 0 [recordOf 0 "rosbag2_bagfile_information" (entries version)])

/-- What the index stands for. -/
def description : Metadata :=
  { Metadata.empty with
    version := 4, storageIdentifier := "sqlite3", relativePaths := ["chat_0.db3"]
    startingTime := 1586406456763032325, duration := 151137181, messageCount := 3
    topics := [⟨⟨"/chat", "std_msgs/msg/String", "cdr", ""⟩, 3⟩] }

set_option maxRecDepth 20000 in
example : older 4 = "rosbag2_bagfile_information:
  message_count: 3
  ros_distro:
  - foxy
  - 'null'
  starting_time:
    nanoseconds_since_epoch: 1586406456763032325
  duration:
    nanoseconds: 151137181
  version: 4
  storage_identifier: sqlite3
  relative_file_paths:
  - chat_0.db3
  topics_with_message_count:
  - message_count: 3
    topic_metadata:
      type: std_msgs/msg/String
      name: /chat
      serialization_format: cdr
" := by rfl

theorem isAt_topicEntries : ∀ e ∈ topicEntries, e.IsAt 4 := by
  simp only [topicEntries, List.forall_mem_cons, List.not_mem_nil, false_implies, implies_true,
    and_true]
  refine ⟨isAt_numberOf (by decide) _, isAt_recordOf (by decide) (by simp) ?_⟩
  simp only [List.forall_mem_cons, List.not_mem_nil, false_implies, implies_true, and_true]
  exact ⟨isAt_textOf (by decide) _, isAt_textOf (by decide) _, isAt_textOf (by decide) _⟩

theorem isAt_entries (version : Nat) : ∀ e ∈ entries version, e.IsAt 2 := by
  have hnumber (key : String) (n : Nat) (h : Keyed.IsName key.toList) :
      ∀ e ∈ [numberOf key n], e.IsAt 4 := by
    simpa using isAt_numberOf h n
  have htopics : ∀ es ∈ [topicEntries], IsItem 2 ((Keyed.lines 4 es).drop 4) (Keyed.mapping es) :=
    List.forall_mem_singleton.mpr
      (Keyed.isItem_record (by simp [topicEntries]) isAt_topicEntries rfl)
  simp only [entries, List.forall_mem_cons, List.not_mem_nil, false_implies, implies_true,
    and_true]
  exact ⟨isAt_numberOf (by decide) _, isAt_listOf (by decide) fun s _ => isItem_text s.toList,
    isAt_recordOf (by decide) (by simp) (hnumber _ _ (by decide)),
    isAt_recordOf (by decide) (by simp) (hnumber _ _ (by decide)), isAt_numberOf (by decide) _,
    isAt_textOf (by decide) _, isAt_listOf (by decide) fun s _ => isItem_text s.toList,
    isAt_listOf (by decide) htopics⟩

theorem presents_older (version : Nat) : Presents (older version) (tree version) := by
  have hat : (recordOf 0 "rosbag2_bagfile_information" (entries version)).IsAt 0 :=
    isAt_recordOf (by decide) (by simp [entries]) (isAt_entries version)
  obtain ⟨size, hdocument⟩ := Keyed.ofText_lines (by simp) (List.forall_mem_singleton.mpr hat)
  constructor <;> rw [older, String.toList_ofList, hdocument]
  rfl

theorem isSimple_tree (version : Nat) : (tree version).IsSimple := by
  have htexts (xs : List String) : ∀ n ∈ xs.map textNode, n.IsSimple :=
    List.forall_mem_map.mpr fun _ _ => .scalar _ _
  have hnumber (key : String) (n : Nat) : (Keyed.mapping [numberOf key n]).IsSimple :=
    isSimple_keyed (by simp) (List.forall_mem_singleton.mpr (.scalar _ _))
  have htopic : (Keyed.mapping topicEntries).IsSimple := by
    refine isSimple_keyed (by decide) ?_
    simp only [topicEntries, List.forall_mem_cons, List.not_mem_nil, false_implies, implies_true,
      and_true]
    refine ⟨.scalar _ _, isSimple_keyed (by decide) ?_⟩
    simp only [List.forall_mem_cons, List.not_mem_nil, false_implies, implies_true, and_true]
    exact ⟨.scalar _ _, .scalar _ _, .scalar _ _⟩
  have hentries : (Keyed.mapping (entries version)).IsSimple := by
    have hnames : ((entries 0).map Keyed.name).Nodup := by decide
    refine isSimple_keyed hnames ?_
    simp only [entries, List.forall_mem_cons, List.not_mem_nil, false_implies, implies_true,
      and_true]
    exact ⟨.scalar _ _, .sequence (htexts _), hnumber _ _, hnumber _ _, .scalar _ _, .scalar _ _,
      .sequence (htexts _), .sequence (List.forall_mem_singleton.mpr htopic)⟩
  exact isSimple_keyed (by simp) (List.forall_mem_singleton.mpr hentries)

theorem has_entries (version : Nat) :
    (tree version).Has "rosbag2_bagfile_information" (Keyed.mapping (entries version)) :=
  has_keyed (e := recordOf 0 "rosbag2_bagfile_information" (entries version)) 0 rfl rfl

theorem has_version (version : Nat) :
    (Keyed.mapping (entries version)).Has "version" (numberNode version) :=
  has_keyed (e := numberOf "version" version) 4 rfl rfl

theorem isNumber_numberNode (n : Nat) : IsNumber (numberNode n) n :=
  ⟨_, rfl, Reading.writes_toDigits n⟩

theorem isText_textNode (s : String) : IsText (textNode s) s := ⟨_, _, rfl, String.ofList_toList⟩

theorem isRecordedTopic_topicEntries : IsRecordedTopic (Keyed.mapping topicEntries)
    ⟨⟨"/chat", "std_msgs/msg/String", "cdr", ""⟩, 3⟩ where
  topic := ⟨_, has_keyed 1 rfl rfl,
    { name                := ⟨_, has_keyed 1 rfl rfl, isText_textNode _⟩
      typeName            := ⟨_, has_keyed 0 rfl rfl, isText_textNode _⟩
      serializationFormat := ⟨_, has_keyed 2 rfl rfl, isText_textNode _⟩
      offeredQosProfiles  := ⟨none, not_has_keyed (by decide), rfl⟩ }⟩
  messageCount := ⟨_, has_keyed 0 rfl rfl, isNumber_numberNode 3⟩

theorem isDescription_entries : IsDescription (Keyed.mapping (entries 4)) description where
  version           := ⟨_, has_version 4, isNumber_numberNode 4⟩
  storageIdentifier := ⟨_, has_keyed 5 rfl rfl, isText_textNode _⟩
  relativePaths     := ⟨_, has_keyed 6 rfl rfl, .inl ⟨_, rfl, .cons (isText_textNode _) .nil⟩⟩
  duration          :=
    ⟨_, has_keyed 3 rfl rfl, _, has_keyed 0 rfl rfl, isNumber_numberNode 151137181⟩
  startingTime      :=
    ⟨_, has_keyed 2 rfl rfl, _, has_keyed 0 rfl rfl, isNumber_numberNode 1586406456763032325⟩
  messageCount      := ⟨_, has_keyed 0 rfl rfl, isNumber_numberNode 3⟩
  topics            :=
    ⟨_, has_keyed 7 rfl rfl, .inl ⟨_, rfl, .cons isRecordedTopic_topicEntries .nil⟩⟩
  bagSize           := ⟨none, not_has_keyed (by decide), rfl⟩
  compressionFormat := ⟨none, not_has_keyed (by decide), rfl⟩
  compressionMode   := ⟨none, not_has_keyed (by decide), rfl⟩

/-- A version that does not fit into 32 bits is none. -/
theorem not_isIndex_tree (m : Metadata) : ¬ IsIndex (tree UInt32.size) m := by
  rintro ⟨v, hv, hdescription⟩
  obtain rfl := (isSimple_tree _).has_unique (by decide) hv (has_entries _)
  obtain ⟨n, hn, hversion⟩ := hdescription.version
  obtain rfl := ((isSimple_tree _).of_has hv).has_unique (by decide) hn (has_version _)
  have heq := IsNumber.unique hversion ⟨_, rfl, Reading.writes_toDigits _⟩
  exact absurd heq (Nat.ne_of_lt m.version.toNat_lt)

end Sample

theorem parse_older :
    (Presents (Sample.older 4) (Sample.tree 4) ∧ (Sample.tree 4).IsSimple ∧
      parse (Sample.older 4) = .ok Sample.description) ∧
    Presents (Sample.older UInt32.size) (Sample.tree UInt32.size) ∧
      (Sample.tree UInt32.size).IsSimple ∧
      ∃ reason, parse (Sample.older UInt32.size) = .error (.metadata reason) := by
  have haccepted := parse_of_presents (Sample.presents_older 4) (Sample.isSimple_tree 4)
  have hrefused := parse_of_presents (Sample.presents_older UInt32.size) (Sample.isSimple_tree _)
  exact ⟨⟨Sample.presents_older 4, Sample.isSimple_tree 4,
      (haccepted.1 Sample.description).mpr ⟨_, Sample.has_entries 4, Sample.isDescription_entries⟩⟩,
    Sample.presents_older _, Sample.isSimple_tree _, hrefused.2 Sample.not_isIndex_tree⟩

end RecordingIndex.Index
