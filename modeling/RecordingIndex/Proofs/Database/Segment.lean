import RecordingIndex.Database.Segment
import RecordingIndex.Proofs.Database.Columns
import RecordingIndex.Proofs.Database.Groups
import RecordingIndex.Proofs.List
import RecordingIndex.Proofs.Reindex.Recovery

/-!
# Proofs — Database — what is told of a segment

A segment is described by the answer to the question about its topics, or the reason why there is
none (`tells_eq`).
-/

namespace RecordingIndex.Database

variable {fs : FileSystem} {path : Path} {topics messages : Table} {size : Nat}
  {ts : List TimedTopic}

/-- A file is a segment with the given tables of topics and messages. -/
def IsSegment (fs : FileSystem) (path : Path) (topics messages : Table) (size : Nat) : Prop :=
  ∃ db, fs.contents path = .ok (.database db size) ∧ db.table? "topics" = some topics ∧
    db.table? "messages" = some messages

/-- The topics of a segment, with their times. -/
def answer (topics messages : Table) : Except String (List TimedTopic) := do
  let rows ← topicRows topics messages
  rows.mapM TimedTopic.ofRow

theorem tells_eq (h : IsSegment fs path topics messages size) : backend.tells fs path =
    match answer topics messages with
    | .error reason => .error (failure path reason)
    | .ok ts        => .ok (describe ts path (UInt64.ofNat size)) := by
  obtain ⟨db, hcontents, htopics, hmessages⟩ := h
  have hschema : schemaFault? (.database db size) = none := by
    simp [schemaFault?, Contents.database?, requiredTables, htopics, hmessages]
  have hopen : (backend.openReadOnly fs path).trace.value =
      .ok ⟨path, snapshot db path size, reportClosed path⟩ := by
    show (openSegment fs path).trace.value = _
    rw [openSegment, hcontents]
    simp only [hschema, Contents.database?]
    rfl
  have hanswer : db.timedTopics = answer topics messages := by
    rw [timedTopics, htopics, hmessages]
    rfl
  rw [Backend.tells, hopen]
  simp only [snapshot, hanswer]
  cases answer topics messages with
  | error reason => rfl
  | ok ts => rfl

/-! ### Messages and their topics -/

/-- The message carries the number of the topic. -/
def belongs (topics messages : Table) (topic message : List Cell) : Bool :=
  (messages.cell "topic_id" message).equal (topics.cell "id" topic)

/-- The message carries the number of some topic. -/
def hasTopic (topics messages : Table) (message : List Cell) : Bool :=
  topics.rows.any fun topic => belongs topics messages topic message

theorem matching_messageRecord (topics messages : Table) (rows : List (List Cell))
    (topic : List Cell) :
    matching (rows.map messages.messageRecord) (topics.topicRecord topic) =
      (rows.filter (belongs topics messages topic)).map messages.messageRecord := by
  rw [matching, List.filter_map]
  rfl

/-- A message with this topic is one with some topic. -/
theorem filter_belongs {topic : List Cell} (h : topic ∈ topics.rows) (rows : List (List Cell)) :
    (rows.filter (hasTopic topics messages)).filter (belongs topics messages topic) =
      rows.filter (belongs topics messages topic) := by
  rw [List.filter_filter]
  refine List.filter_congr fun message _ => ?_
  cases hbelongs : belongs topics messages topic message with
  | false => rfl
  | true => exact List.any_eq_true.mpr ⟨topic, h, hbelongs⟩

/-! ### The answer -/

theorem topicRows_eq (h : HasColumns topics messages) : topicRows topics messages =
    .ok ((groups (topics.rows.map topics.topicRecord)).filterMap
      (TopicRow.ofGroup? (messages.rows.map messages.messageRecord))) := by
  rw [topicRows, records_eq h]
  rfl

theorem ofGroup?_congr {ms ms' : List MessageRecord} {group : List TopicRecord}
    (h : ∀ t ∈ group, matching ms' t = matching ms t) :
    TopicRow.ofGroup? ms' group = TopicRow.ofGroup? ms group := by
  have hrows : group.flatMap (joined ms') = group.flatMap (joined ms) := by
    refine List.flatMap_congr fun t ht => ?_
    have hmatching := h t ht
    rw [matching, matching] at hmatching
    rw [joined, joined, hmatching]
  rw [TopicRow.ofGroup?, TopicRow.ofGroup?, hrows]

/-- **Messages without a topic** do not matter to the answer. -/
theorem answer_eq_of_filter {rows : List (List Cell)} (hcolumns : HasColumns topics messages)
    (h : rows.filter (hasTopic topics messages) = messages.rows.filter (hasTopic topics messages)) :
    answer topics { messages with rows := rows } = answer topics messages := by
  have hcolumns' : HasColumns topics { messages with rows := rows } :=
    ⟨hcolumns.topics, hcolumns.messages⟩
  have hrows : topicRows topics { messages with rows := rows } = topicRows topics messages := by
    rw [topicRows_eq hcolumns, topicRows_eq hcolumns']
    refine congrArg Except.ok (List.filterMap_congr fun group hgroup => ofGroup?_congr ?_)
    intro t ht
    obtain ⟨topic, htopic, rfl⟩ := List.mem_map.mp
      ((flatten_groups_perm _).mem_iff.mp (List.mem_flatten.mpr ⟨group, hgroup, ht⟩))
    have hbelongs : rows.filter (belongs topics messages topic) =
        messages.rows.filter (belongs topics messages topic) := by
      rw [← filter_belongs htopic rows, h, filter_belongs htopic]
    calc matching (rows.map messages.messageRecord) (topics.topicRecord topic)
        = (rows.filter (belongs topics messages topic)).map messages.messageRecord :=
          matching_messageRecord topics messages rows topic
      _ = (messages.rows.filter (belongs topics messages topic)).map messages.messageRecord := by
          rw [hbelongs]
      _ = matching (messages.rows.map messages.messageRecord) (topics.topicRecord topic) :=
          (matching_messageRecord topics messages messages.rows topic).symm
  rw [answer, answer, hrows]

theorem isTime_messageRecord
    (h : ∀ message ∈ messages.rows, (messages.cell "timestamp" message).IsTime) :
    ∀ m ∈ messages.rows.map messages.messageRecord, m.time.IsTime := by
  intro m hm
  obtain ⟨message, hmessage, rfl⟩ := List.mem_map.mp hm
  exact h message hmessage

theorem numberOf_ofInteger? (index : Nat) (column : String) (n : Option Int) :
    numberOf index column (Cell.ofInteger? n) = .ok n := by
  cases n <;> rfl

/-- The topic stands for a group: it is one of its topics with the sums over their messages. -/
def StandsFor (ms : List MessageRecord) (group : List TopicRecord) (t : TimedTopic) : Prop :=
  ∃ shown ∈ group, TimedTopic.ofRow (.sum shown (group.flatMap (matching ms))) = .ok t

/-- Each topic of an answer stands for a group. -/
theorem standsFor_of_answer (h : answer topics messages = .ok ts)
    (htimes : ∀ message ∈ messages.rows, (messages.cell "timestamp" message).IsTime) :
    List.Forall₂ (StandsFor (messages.rows.map messages.messageRecord))
      (groups (topics.rows.map topics.topicRecord)) ts := by
  obtain ⟨rows, hrows, hts⟩ := exists_of_bind h
  obtain ⟨x, hx, -⟩ := exists_of_bind hrows
  rw [topicRows_eq (hasColumns_of_records hx)] at hrows
  cases hrows
  refine forall₂_of_filterMap (fun group hgroup => ?_) (mapM_eq_ok_iff.mp hts)
  obtain ⟨shown, hshown, hsum⟩ :=
    exists_ofGroup? (ne_nil_of_mem_groups hgroup) (isTime_messageRecord htimes)
  exact ⟨_, hsum, fun t ht => ⟨shown, hshown, ht⟩⟩

end RecordingIndex.Database
