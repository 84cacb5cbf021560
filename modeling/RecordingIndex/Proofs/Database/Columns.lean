import RecordingIndex.Database.Query
import RecordingIndex.Proofs.Except

/-!
# Proofs — Database — rows read by the names of their columns

The question about topics names seven columns, and an eighth if it is there.  It can be put exactly
if the seven are there (`HasColumns`), and then reads each row cell by cell (`records_eq`).
-/

namespace RecordingIndex.Database

variable {t topics messages : Table} {name complaint : String} {i : Nat}

namespace Table

/-- There is a column of the name, regardless of case. -/
def HasColumn (t : Table) (name : String) : Prop := ∃ c ∈ t.columns, c.toLower = name

/-- The cell of a row in the column of a name, a null where there is no such column. -/
def cell (t : Table) (name : String) (row : List Cell) : Cell :=
  ((t.column? name).map (cellAt row)).getD .null

/-- The cell of a row in the last column of the topics, empty where that is missing. -/
def qos (t : Table) (row : List Cell) : Cell :=
  if "offered_qos_profiles" ∈ t.columns then t.cell "offered_qos_profiles" row else .text ""

/-- A row of the table of topics, read by names. -/
def topicRecord (t : Table) (row : List Cell) : TopicRecord :=
  ⟨t.cell "id" row, t.cell "name" row, t.cell "type" row, t.cell "serialization_format" row,
    t.qos row⟩

/-- A row of the table of messages, read by names. -/
def messageRecord (t : Table) (row : List Cell) : MessageRecord :=
  ⟨t.cell "id" row, t.cell "topic_id" row, t.cell "timestamp" row⟩

theorem hasColumn_iff : t.HasColumn name ↔ ∃ i, t.column? name = some i := by
  rw [← Option.isSome_iff_exists, column?, List.findIdx?_isSome, List.any_eq_true]
  exact exists_congr fun c => and_congr_right fun _ => beq_iff_eq.symm

theorem cell_eq (h : t.column? name = some i) : t.cell name = fun row => cellAt row i := by
  funext row
  rw [cell, h]
  rfl

end Table

/-- The columns that the question about topics cannot do without. -/
structure HasColumns (topics messages : Table) : Prop where
  topics   : ∀ name ∈ ["id", "name", "type", "serialization_format"], topics.HasColumn name
  messages : ∀ name ∈ ["id", "topic_id", "timestamp"], messages.HasColumn name

theorem place_eq_ok_iff : place t name complaint = .ok i ↔ t.column? name = some i := by
  rw [place]
  cases t.column? name with
  | none => exact ⟨nofun, nofun⟩
  | some j => rw [Except.ok.injEq, Option.some.injEq]

theorem Table.hasColumn_of_place (h : place t name complaint = .ok i) : t.HasColumn name :=
  Table.hasColumn_iff.mpr ⟨i, place_eq_ok_iff.mp h⟩

theorem hasColumns_of_records {x : List TopicRecord × List MessageRecord}
    (h : records topics messages = .ok x) : HasColumns topics messages := by
  rw [records] at h
  obtain ⟨name, hname, h⟩ := exists_of_bind h
  obtain ⟨type, htype, h⟩ := exists_of_bind h
  obtain ⟨format, hformat, h⟩ := exists_of_bind h
  obtain ⟨id, hid, h⟩ := exists_of_bind h
  obtain ⟨time, htime, h⟩ := exists_of_bind h
  obtain ⟨topic, htopic, h⟩ := exists_of_bind h
  obtain ⟨number, hnumber, -⟩ := exists_of_bind h
  constructor
  · simp only [List.forall_mem_cons]
    exact ⟨Table.hasColumn_of_place hnumber, Table.hasColumn_of_place hname,
      Table.hasColumn_of_place htype, Table.hasColumn_of_place hformat, List.forall_mem_nil _⟩
  · simp only [List.forall_mem_cons]
    exact ⟨Table.hasColumn_of_place hid, Table.hasColumn_of_place htopic,
      Table.hasColumn_of_place htime, List.forall_mem_nil _⟩

/-- **The rows** are read by the names of their columns. -/
theorem records_eq (h : HasColumns topics messages) : records topics messages =
    .ok (topics.rows.map topics.topicRecord, messages.rows.map messages.messageRecord) := by
  obtain ⟨htopics, hmessages⟩ := h
  simp only [List.forall_mem_cons, Table.hasColumn_iff] at htopics hmessages
  obtain ⟨⟨number, hnumber⟩, ⟨name, hname⟩, ⟨type, htype⟩, ⟨format, hformat⟩, -⟩ := htopics
  obtain ⟨⟨id, hid⟩, ⟨topic, htopic⟩, ⟨time, htime⟩, -⟩ := hmessages
  have htopics : topics.topicRecord = fun r => ⟨cellAt r number, cellAt r name, cellAt r type,
      cellAt r format, topics.qos r⟩ := by
    funext r
    rw [Table.topicRecord, Table.cell_eq hnumber, Table.cell_eq hname, Table.cell_eq htype,
      Table.cell_eq hformat]
  have hmessages : messages.messageRecord = fun r => ⟨cellAt r id, cellAt r topic, cellAt r time⟩ := by
    funext r
    rw [Table.messageRecord, Table.cell_eq hid, Table.cell_eq htopic, Table.cell_eq htime]
  rw [htopics, hmessages]
  simp only [records, place_eq_ok_iff.mpr hname, place_eq_ok_iff.mpr htype,
    place_eq_ok_iff.mpr hformat, place_eq_ok_iff.mpr hid, place_eq_ok_iff.mpr htime,
    place_eq_ok_iff.mpr htopic, place_eq_ok_iff.mpr hnumber]
  -- The last column is read only under its exact name.
  by_cases hmem : "offered_qos_profiles" ∈ topics.columns
  · have hcolumn : topics.HasColumn "offered_qos_profiles" := ⟨_, hmem, by decide +kernel⟩
    obtain ⟨i, hi⟩ := Table.hasColumn_iff.mp hcolumn
    simp only [Table.qos, if_pos hmem, Table.cell_eq hi, List.contains_iff_mem.mpr hmem, hi]
    rfl
  · have hnot : topics.columns.contains "offered_qos_profiles" = false :=
      Bool.eq_false_iff.mpr fun h => hmem (List.contains_iff_mem.mp h)
    simp only [Table.qos, if_neg hmem, hnot]
    rfl

end RecordingIndex.Database
