import RecordingIndex.Proofs.Database.Segment
import RecordingIndex.Proofs.Metadata

/-!
# Proofs — Database — the topics of a segment and their messages

Where the cells are of the kinds that their columns are for (`IsTyped`), each topic makes a group of
its own.  The description then lists the topics by ascending number, each with its texts and the
number of the messages that carry its number (`summarizes_tells`).  The order of the rows does not
matter to it.
-/

namespace RecordingIndex.Database

variable {fs : FileSystem} {path : Path} {topics messages : Table} {size : Nat}
  {row row' : List Cell} {rows : List (List Cell)} {t : TopicRecord} {ms ms' : List MessageRecord}

/-- The cells of the tables are of the kinds that their columns are for, and no two topics have one
number. -/
structure IsTyped (topics messages : Table) : Prop where
  columns  : HasColumns topics messages
  ids      : ∀ row ∈ topics.rows, ∃ n, topics.cell "id" row = .integer n
  distinct : (topics.rows.map (topics.cell "id")).Nodup
  texts    : ∀ row ∈ topics.rows, ∀ name ∈ ["name", "type", "serialization_format"],
               ∃ s, topics.cell name row = .text s
  qos      : "offered_qos_profiles" ∈ topics.columns → ∀ row ∈ topics.rows,
               topics.cell "offered_qos_profiles" row = .null ∨
                 ∃ s, topics.cell "offered_qos_profiles" row = .text s
  times    : ∀ row ∈ messages.rows, (messages.cell "timestamp" row).IsTime

/-- One topic has a lower number than the other. -/
def Precedes (topics : Table) (row row' : List Cell) : Prop :=
  ∃ m n, topics.cell "id" row = .integer m ∧ topics.cell "id" row' = .integer n ∧ m < n

/-- Of the messages with a number of their own, how many are such. -/
def tally (messages : Table) (p : List Cell → Bool) : Nat :=
  (messages.rows.filter fun row => messages.cell "id" row ≠ .null).countP p

/-- The entry of a topic: its texts unchanged, an empty text where there are no profiles, and the
number of its messages. -/
structure IsEntry (topics messages : Table) (row : List Cell) (r : RecordedTopic) : Prop where
  name   : topics.cell "name" row = .text r.topic.name
  type   : topics.cell "type" row = .text r.topic.typeName
  format : topics.cell "serialization_format" row = .text r.topic.serializationFormat
  qos    : topics.qos row = .text r.topic.offeredQosProfiles ∨
             topics.qos row = .null ∧ r.topic.offeredQosProfiles = ""
  count  : r.messageCount = UInt64.ofNat (tally messages (belongs topics messages row))

/-- The description's topics are those of the table by ascending number, and its number of messages
is the sum of theirs, as far as 64 bits can tell.  If they can number the rows, the sum is exact, and
each message that has a topic is counted once. -/
structure Summarizes (topics messages : Table) (m : Metadata) : Prop where
  entries : ∃ rows, rows.Perm topics.rows ∧ rows.Pairwise (Precedes topics) ∧
              List.Forall₂ (IsEntry topics messages) rows m.topics
  total   : m.messageCount.toNat =
              min (m.topics.map fun r => r.messageCount.toNat).sum (UInt64.size - 1)
  once    : messages.rows.length < UInt64.size →
              m.messageCount.toNat = (m.topics.map fun r => r.messageCount.toNat).sum ∧
                m.messageCount.toNat = tally messages (hasTopic topics messages)

/-! ### The topics by ascending number -/

/-- The number of a topic. -/
def Table.number (t : Table) (row : List Cell) : Int := (t.cell "id" row).integer?.getD 0

/-- The topics by ascending number. -/
def ascending (topics : Table) : List (List Cell) :=
  topics.rows.mergeSort fun row row' => topics.number row ≤ topics.number row'

theorem ascending_perm (topics : Table) : (ascending topics).Perm topics.rows :=
  List.mergeSort_perm ..

namespace IsTyped

theorem cell_id (h : IsTyped topics messages) (hrow : row ∈ topics.rows) :
    topics.cell "id" row = .integer (topics.number row) := by
  obtain ⟨n, hn⟩ := h.ids row hrow
  rw [Table.number, hn]
  rfl

theorem of_perm (h : IsTyped topics messages) {rows rows' : List (List Cell)}
    (hrows : rows.Perm topics.rows) (hrows' : rows'.Perm messages.rows) :
    IsTyped { topics with rows := rows } { messages with rows := rows' } where
  columns           := ⟨h.columns.topics, h.columns.messages⟩
  ids row hrow      := h.ids row (hrows.mem_iff.mp hrow)
  distinct          := (hrows.map _).nodup_iff.mpr h.distinct
  texts row hrow    := h.texts row (hrows.mem_iff.mp hrow)
  qos hmem row hrow := h.qos hmem row (hrows.mem_iff.mp hrow)
  times row hrow    := h.times row (hrows'.mem_iff.mp hrow)

theorem nodup_number (h : IsTyped topics messages) : (topics.rows.map topics.number).Nodup := by
  have hcells : topics.rows.map (topics.cell "id") =
      (topics.rows.map topics.number).map .integer := by
    rw [List.map_map]
    exact List.map_congr_left fun row hrow => h.cell_id hrow
  exact List.Nodup.of_map _ (hcells ▸ h.distinct)

theorem pairwise_ascending (h : IsTyped topics messages) :
    (ascending topics).Pairwise fun row row' => topics.number row < topics.number row' :=
  pairwise_lt_mergeSort h.nodup_number

theorem precedes_ascending (h : IsTyped topics messages) :
    (ascending topics).Pairwise (Precedes topics) := by
  refine h.pairwise_ascending.imp_of_mem fun hrow hrow' hlt => ?_
  exact ⟨_, _, h.cell_id ((ascending_perm topics).mem_iff.mp hrow),
    h.cell_id ((ascending_perm topics).mem_iff.mp hrow'), hlt⟩

/-- **Each topic** makes a group of its own. -/
theorem groups_eq (h : IsTyped topics messages) : groups (topics.rows.map topics.topicRecord) =
    (ascending topics).map fun row => [topics.topicRecord row] := by
  have hsort : (ascending topics).map topics.topicRecord =
      (topics.rows.map topics.topicRecord).mergeSort fun s t => s.id.compare t.id != .gt := by
    refine List.map_mergeSort fun row hrow row' hrow' => ?_
    simp only [Table.topicRecord, h.cell_id hrow, h.cell_id hrow', Cell.compare]
    rw [Bool.eq_iff_iff, decide_eq_true_eq, bne_iff_ne, Int.compare_ne_gt]
  rw [groups, ← hsort, List.splitBy_eq_iff]
  refine ⟨?_, ?_, ?_, ?_⟩
  · rw [← List.flatMap_def, ← List.map_eq_flatMap]
  · simp
  · intro group hgroup
    obtain ⟨row, -, rfl⟩ := List.mem_map.mp hgroup
    exact .singleton _
  · refine (List.isChain_map _).mpr (h.precedes_ascending.imp fun hlt => ?_).isChain
    obtain ⟨m, n, hm, hn, hlt⟩ := hlt
    refine ⟨List.cons_ne_nil _ _, List.cons_ne_nil _ _, ?_⟩
    simp only [List.getLast_singleton, List.head_cons, Table.topicRecord, hm, hn, Cell.compare]
    rw [beq_eq_false_iff_ne, ne_eq, Int.compare_eq_eq]
    omega

/-- The order of the rows of a table does not matter to the topics by ascending number. -/
theorem ascending_of_perm (h : IsTyped topics messages) (hrows : rows.Perm topics.rows) :
    ascending { topics with rows := rows } = ascending topics := by
  have h' : IsTyped { topics with rows := rows } messages := h.of_perm hrows (.refl _)
  refine List.Perm.eq_of_pairwise (fun a b _ _ hab hba => ?_) h'.pairwise_ascending
    h.pairwise_ascending ?_
  · exact absurd hab (Int.lt_asymm hba)
  · exact (ascending_perm _).trans (hrows.trans (ascending_perm topics).symm)

end IsTyped

/-! ### The answer -/

/-- The text in a cell, empty if there is none. -/
def Cell.string : Cell → String
  | .text s => s
  | _       => ""

/-- A topic with the sums over messages, its texts read. -/
def TimedTopic.sum (t : TopicRecord) (ms : List MessageRecord) : TimedTopic :=
  ⟨⟨⟨t.name.string, t.type.string, t.format.string, t.qos.string⟩,
      UInt64.ofNat (ms.countP fun m => m.id ≠ .null)⟩,
    combined min (timesOf ms), combined max (timesOf ms)⟩

theorem ofRow_sum (hname : ∃ s, t.name = .text s) (htype : ∃ s, t.type = .text s)
    (hformat : ∃ s, t.format = .text s) (hqos : t.qos = .null ∨ ∃ s, t.qos = .text s) :
    TimedTopic.ofRow (.sum t ms) = .ok (.sum t ms) := by
  obtain ⟨name, hname⟩ := hname
  obtain ⟨type, htype⟩ := htype
  obtain ⟨format, hformat⟩ := hformat
  simp only [TimedTopic.ofRow, TopicRow.sum, TimedTopic.sum, hname, htype, hformat, textOf,
    numberOf_ofInteger?]
  obtain hqos | ⟨qos, hqos⟩ := hqos <;> rw [hqos] <;> rfl

/-- The order of the messages does not matter to the sums. -/
theorem sum_of_perm (t : TopicRecord) (h : ms.Perm ms') :
    TimedTopic.sum t ms = TimedTopic.sum t ms' := by
  rw [TimedTopic.sum, TimedTopic.sum, h.countP_eq, timesOf, timesOf, combined_perm (h.map _),
    combined_perm (h.map _)]

/-- The messages that carry the number of a topic. -/
def own (topics messages : Table) (row : List Cell) : List MessageRecord :=
  matching (messages.rows.map messages.messageRecord) (topics.topicRecord row)

/-- A topic with the sums over its messages. -/
def entry (topics messages : Table) (row : List Cell) : TimedTopic :=
  .sum (topics.topicRecord row) (own topics messages row)

theorem entry_of_perm (topics : Table) (row : List Cell) (h : rows.Perm messages.rows) :
    entry topics { messages with rows := rows } row = entry topics messages row :=
  sum_of_perm _ ((h.map _).filter _)

namespace IsTyped

theorem qos_of_mem (h : IsTyped topics messages) (hrow : row ∈ topics.rows) :
    topics.qos row = .null ∨ ∃ s, topics.qos row = .text s := by
  rw [Table.qos]
  split
  · next hmem => exact h.qos hmem row hrow
  · exact .inr ⟨"", rfl⟩

/-- **The answer** is a topic for each row, by ascending number. -/
theorem answer_eq (h : IsTyped topics messages) : answer topics messages =
    .ok ((ascending topics).map (entry topics messages)) := by
  have htopics : topicRows topics messages = .ok ((ascending topics).map fun row =>
      .sum (topics.topicRecord row) (own topics messages row)) := by
    rw [topicRows_eq h.columns, h.groups_eq, List.filterMap_map]
    refine congrArg Except.ok
      ((List.filterMap_congr fun row _ => ?_).trans (congrFun List.filterMap_eq_map _))
    obtain ⟨t, ht, hsum⟩ := exists_ofGroup? (List.cons_ne_nil (topics.topicRecord row) [])
      (isTime_messageRecord h.times)
    rw [List.mem_singleton.mp ht, List.flatMap_singleton] at hsum
    exact hsum
  rw [answer, htopics]
  refine mapM_eq_ok_iff.mpr ?_
  rw [List.forall₂_map_left_iff, List.forall₂_map_right_iff, List.forall₂_same]
  intro row hrow
  have hmem := (ascending_perm topics).mem_iff.mp hrow
  exact ofRow_sum (h.texts row hmem "name" (by simp)) (h.texts row hmem "type" (by simp))
    (h.texts row hmem "serialization_format" (by simp)) (h.qos_of_mem hmem)

/-- **The order of the rows** does not matter to the answer. -/
theorem answer_of_perm (h : IsTyped topics messages) {rows rows' : List (List Cell)}
    (hrows : rows.Perm topics.rows) (hrows' : rows'.Perm messages.rows) :
    answer { topics with rows := rows } { messages with rows := rows' } =
      answer topics messages := by
  rw [h.answer_eq, (h.of_perm hrows hrows').answer_eq, h.ascending_of_perm hrows]
  exact congrArg Except.ok (List.map_congr_left fun row _ => entry_of_perm topics row hrows')

end IsTyped

/-! ### The messages of the topics -/

theorem countP_own (topics messages : Table) (row : List Cell) :
    ((own topics messages row).countP fun m => m.id ≠ .null) =
      tally messages (belongs topics messages row) := by
  rw [own, matching_messageRecord, List.countP_map, List.countP_filter, tally, List.countP_filter]
  refine List.countP_congr fun message _ => ?_
  rw [Bool.and_comm]
  rfl

theorem eq_of_compareOfLessAndEq {d : Dyadic} {n : Int}
    (h : compareOfLessAndEq d (n : Dyadic) = .eq) : d.toRat = n := by
  rw [compareOfLessAndEq] at h
  split at h
  · cases h
  · split at h
    · next heq => rw [heq, Dyadic.toRat_intCast]
    · cases h

/-- A cell is equal to one integer at most. -/
theorem eq_of_equal {c : Cell} {a b : Int} (ha : c.equal (.integer a)) (hb : c.equal (.integer b)) :
    a = b := by
  cases c with
  | null => cases ha
  | text | blob => simp [Cell.equal, Cell.compare, Cell.rank] at ha
  | integer n =>
      simp only [Cell.equal, Cell.compare, beq_iff_eq, Int.compare_eq_eq] at ha hb
      omega
  | real d =>
      have hda := eq_of_compareOfLessAndEq (beq_iff_eq.mp ha)
      have hdb := eq_of_compareOfLessAndEq (beq_iff_eq.mp hb)
      exact Rat.intCast_inj.mp (hda.symm.trans hdb)

/-- No message is counted under two topics. -/
theorem IsTyped.sum_tally (h : IsTyped topics messages) :
    ((ascending topics).map fun row => tally messages (belongs topics messages row)).sum =
      tally messages (hasTopic topics messages) := by
  have hdisjoint : (ascending topics).Pairwise fun row row' =>
      ∀ message ∈ messages.rows.filter fun row => messages.cell "id" row ≠ .null,
        belongs topics messages row message → belongs topics messages row' message = false := by
    refine h.precedes_ascending.imp fun {row row'} hprecedes message _ hbelongs => ?_
    obtain ⟨m, n, hm, hn, hlt⟩ := hprecedes
    refine Bool.eq_false_iff.mpr fun hbelongs' => ?_
    rw [belongs, hm] at hbelongs
    rw [belongs, hn] at hbelongs'
    exact absurd (eq_of_equal hbelongs hbelongs') (by omega)
  simp only [tally]
  rw [sum_countP _ hdisjoint]
  refine List.countP_congr fun message _ => ?_
  rw [hasTopic, (ascending_perm topics).any_eq]

theorem tally_le (messages : Table) (p : List Cell → Bool) :
    tally messages p ≤ messages.rows.length :=
  List.countP_le_length.trans (List.length_filter_le ..)

/-! ### The description -/

/-- The entry of a topic. -/
theorem IsTyped.isEntry (h : IsTyped topics messages) (hrow : row ∈ topics.rows) :
    IsEntry topics messages row (entry topics messages row).recorded := by
  obtain ⟨name, hname⟩ := h.texts row hrow "name" (by simp)
  obtain ⟨type, htype⟩ := h.texts row hrow "type" (by simp)
  obtain ⟨format, hformat⟩ := h.texts row hrow "serialization_format" (by simp)
  constructor
  · simp only [entry, TimedTopic.sum, Table.topicRecord, hname, Cell.string]
  · simp only [entry, TimedTopic.sum, Table.topicRecord, htype, Cell.string]
  · simp only [entry, TimedTopic.sum, Table.topicRecord, hformat, Cell.string]
  · simp only [entry, TimedTopic.sum, Table.topicRecord]
    obtain hqos | ⟨qos, hqos⟩ := h.qos_of_mem hrow
    · exact .inr ⟨hqos, congrArg Cell.string hqos⟩
    · exact .inl (hqos.trans (congrArg (Cell.text ∘ Cell.string) hqos).symm)
  · simp only [entry, TimedTopic.sum, countP_own]

theorem total_describe (ts : List TimedTopic) (path : Path) (size : UInt64) :
    (describe ts path size).messageCount.toNat =
      min ((describe ts path size).topics.map fun r => r.messageCount.toNat).sum
        (UInt64.size - 1) := by
  simp only [describe, toNat_sum, List.map_map, Function.comp_def]

theorem IsTyped.summarizes (h : IsTyped topics messages) (path : Path) (size : UInt64) :
    Summarizes topics messages
      (describe ((ascending topics).map (entry topics messages)) path size) := by
  have htotal := total_describe ((ascending topics).map (entry topics messages)) path size
  refine ⟨⟨ascending topics, ascending_perm topics, h.precedes_ascending, ?_⟩, htotal,
    fun hlength => ?_⟩
  · simp only [describe, List.forall₂_map_right_iff, List.forall₂_same]
    exact fun row hrow => h.isEntry ((ascending_perm topics).mem_iff.mp hrow)
  · -- Each count is one of messages of the table, so that it fits.
    have hcount : ∀ row, (entry topics messages row).recorded.messageCount.toNat =
        tally messages (belongs topics messages row) := by
      intro row
      simp only [entry, TimedTopic.sum, countP_own]
      exact UInt64.toNat_ofNat_of_lt (Nat.lt_of_le_of_lt (tally_le messages _) hlength)
    have hsum : ((describe ((ascending topics).map (entry topics messages)) path size).topics.map
        fun r => r.messageCount.toNat).sum = tally messages (hasTopic topics messages) := by
      simp only [describe, List.map_map, Function.comp_def, hcount]
      exact h.sum_tally
    have hle := tally_le messages (hasTopic topics messages)
    omega

/-- **The topics of a segment** are described by ascending number, each with the number of its
messages.  The order of the rows does not matter. -/
theorem summarizes_tells (hseg : IsSegment fs path topics messages size)
    (h : IsTyped topics messages) :
    ∃ m, backend.tells fs path = .ok m ∧ Summarizes topics messages m ∧
      ∀ fs' rows rows', rows.Perm topics.rows → rows'.Perm messages.rows →
        IsSegment fs' path { topics with rows := rows } { messages with rows := rows' } size →
          backend.tells fs' path = .ok m := by
  refine ⟨_, ?_, h.summarizes path (UInt64.ofNat size), ?_⟩
  · rw [tells_eq hseg, h.answer_eq]
  · intro fs' rows rows' hrows hrows' hseg'
    rw [tells_eq hseg', h.answer_of_perm hrows hrows', h.answer_eq]

/-! ### A segment of two topics -/

namespace Sample

/-- Two topics, the second with the lower number, the first without profiles. -/
def topicTable : Table :=
  ⟨"topics", false, ["id", "name", "type", "serialization_format", "offered_qos_profiles"],
    [[.integer 7, .text "/b", .text "B", .text "cdr", .null],
     [.integer 2, .text "/a", .text "A", .text "cdr", .text "- depth: 1"]]⟩

/-- Messages with and without a number and a time, the last of no topic. -/
def messageTable : Table :=
  ⟨"messages", false, ["id", "topic_id", "timestamp"],
    [[.integer 1, .integer 7, .integer 30], [.null, .integer 7, .integer (-5)],
     [.integer 3, .integer 2, .null], [.integer 4, .integer 9, .integer 90]]⟩

/-- A file system with nothing but the segment. -/
def segment : FileSystem :=
  FileSystem.empty.insert [Utf8.ofString "s_0.db3"]
    (.file (.database ⟨[topicTable, messageTable]⟩ 8192))

theorem isSegment_segment :
    IsSegment segment (.ofString "/s_0.db3") topicTable messageTable 8192 :=
  ⟨⟨[topicTable, messageTable]⟩, by decide +kernel, rfl, rfl⟩

theorem hasColumns_tables : HasColumns topicTable messageTable := by
  constructor
  · simp only [List.forall_mem_cons, Table.hasColumn_iff]
    exact ⟨⟨0, by decide +kernel⟩, ⟨1, by decide +kernel⟩, ⟨2, by decide +kernel⟩, ⟨3, by decide +kernel⟩, List.forall_mem_nil _⟩
  · simp only [List.forall_mem_cons, Table.hasColumn_iff]
    exact ⟨⟨0, by decide +kernel⟩, ⟨1, by decide +kernel⟩, ⟨2, by decide +kernel⟩, List.forall_mem_nil _⟩

theorem isTyped_tables : IsTyped topicTable messageTable := by
  have hid : topicTable.column? "id" = some 0 := by decide +kernel
  have hname : topicTable.column? "name" = some 1 := by decide +kernel
  have htype : topicTable.column? "type" = some 2 := by decide +kernel
  have hformat : topicTable.column? "serialization_format" = some 3 := by decide +kernel
  have hqos : topicTable.column? "offered_qos_profiles" = some 4 := by decide +kernel
  have htime : messageTable.column? "timestamp" = some 2 := by decide +kernel
  refine ⟨hasColumns_tables, ?_, ?_, ?_, ?_, ?_⟩
  · rw [Table.cell_eq hid]
    simp [topicTable, cellAt]
  · rw [Table.cell_eq hid]
    decide
  · simp only [List.forall_mem_cons, Table.cell_eq hname, Table.cell_eq htype,
      Table.cell_eq hformat]
    simp [topicTable, cellAt]
  · rw [Table.cell_eq hqos]
    simp [topicTable, cellAt]
  · rw [Table.cell_eq htime]
    simp [messageTable, cellAt, Cell.IsTime]

end Sample

theorem summarizes_tells_sample :
    IsSegment Sample.segment (.ofString "/s_0.db3") Sample.topicTable Sample.messageTable 8192 ∧
      IsTyped Sample.topicTable Sample.messageTable ∧
      ∃ m, backend.tells Sample.segment (.ofString "/s_0.db3") = .ok m ∧
        Summarizes Sample.topicTable Sample.messageTable m := by
  obtain ⟨m, htells, hsummarizes, -⟩ :=
    summarizes_tells Sample.isSegment_segment Sample.isTyped_tables
  exact ⟨Sample.isSegment_segment, Sample.isTyped_tables, m, htells, hsummarizes⟩

end RecordingIndex.Database
