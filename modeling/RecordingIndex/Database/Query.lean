import RecordingIndex.Database.Basic

/-!
# Database — the topics and their messages

`Database.topicRows` answers the one question asked of a segment: for every topic, how many messages
it has and when the first and the last were recorded.  The rows of the table of topics are joined
with the messages that carry their number (`joined`), grouped by that number and put into its order
(`groups`), and each group is summed up (`TopicRow.ofGroup`).

Column names count regardless of case.  A null number joins with nothing, but the topics without a
number make one group.  A group of several topics shows the cells of the row in which the latest
time is first met.
-/

namespace RecordingIndex

namespace Database

/-! ### Columns -/

/-- The place of a column, its name regardless of case. -/
def Table.column? (t : Table) (name : String) : Option Nat :=
  t.columns.findIdx? fun c => c.toLower == name

/-- The cell of a row at a place. -/
def cellAt (row : List Cell) (place : Nat) : Cell := row[place]?.getD .null

/-- A row of the table of topics. -/
structure TopicRecord where
  id     : Cell
  name   : Cell
  type   : Cell
  format : Cell
  qos    : Cell

/-- A row of the table of messages. -/
structure MessageRecord where
  id    : Cell
  topic : Cell
  time  : Cell

/-- The text of the question; the last column of the topics may have to be done without. -/
def questionText (hasQos : Bool) : String :=
  "SELECT t.name, t.type, t.serialization_format, " ++
    (if hasQos then "t.offered_qos_profiles" else "''") ++
    ", COUNT(m.id), MIN(m.timestamp), MAX(m.timestamp) " ++
    "FROM topics t LEFT JOIN messages m ON m.topic_id = t.id GROUP BY t.id ORDER BY t.id"

/-- How many characters stand before the first occurrence of `word`. -/
def offsetOf (word : List Char) : List Char → Nat
  | []     => 0
  | c :: r => if word.isPrefixOf (c :: r) then 0 else offsetOf word r + 1

/-- The complaint about a column that is to be shown. -/
def noShownColumn (hasQos : Bool) (column : String) : String :=
  let question := questionText hasQos
  "no such column: " ++ column ++ " in " ++ question ++ " at offset " ++
    toString (offsetOf column.toList question.toList)

/-- The place of a column, or a complaint. -/
def place (t : Table) (name : String) (complaint : String) : Except String Nat :=
  match t.column? name with
  | some i => .ok i
  | none   => .error complaint

/-- The rows of the two tables, read by the names of their columns. -/
def records (topics messages : Table) : Except String (List TopicRecord × List MessageRecord) := do
  let hasQos := topics.columns.contains "offered_qos_profiles"
  let shown (t : Table) (short name : String) :=
    place t name (noShownColumn hasQos (short ++ "." ++ name))
  let name ← shown topics "t" "name"
  let type ← shown topics "t" "type"
  let format ← shown topics "t" "serialization_format"
  let id ← shown messages "m" "id"
  let time ← shown messages "m" "timestamp"
  let topic ← place messages "topic_id" "no such column: m.topic_id"
  let number ← place topics "id" "no such column: t.id"
  -- The column counts as there only under its exact name.
  let qos (row : List Cell) : Cell :=
    match hasQos, topics.column? "offered_qos_profiles" with
    | true, some i => cellAt row i
    | _,    _      => .text ""
  return (topics.rows.map fun r =>
            ⟨cellAt r number, cellAt r name, cellAt r type, cellAt r format, qos r⟩,
          messages.rows.map fun r => ⟨cellAt r id, cellAt r topic, cellAt r time⟩)

/-! ### Groups -/

/-- A topic with each of its messages, or alone if it has none. -/
def joined (messages : List MessageRecord) (t : TopicRecord) :
    List (TopicRecord × Option MessageRecord) :=
  match messages.filter fun m => m.topic.equal t.id with
  | []      => [(t, none)]
  | m :: ms => (m :: ms).map fun m => (t, some m)

/-- The topics by ascending number, those of one number together. -/
def groups (topics : List TopicRecord) : List (List TopicRecord) :=
  (topics.mergeSort fun s t => s.id.compare t.id != .gt).splitBy fun s t => s.id.compare t.id == .eq

/-- The non-null cells. -/
def present (cells : List Cell) : List Cell := cells.filter (· ≠ .null)

/-- The least of the non-null cells, or a null. -/
def least (cells : List Cell) : Cell :=
  match present cells with
  | []      => .null
  | c :: cs => cs.foldl (fun best c => if best.compare c == .gt then c else best) c

/-- The greatest of the non-null cells, or a null. -/
def greatest (cells : List Cell) : Cell :=
  match present cells with
  | []      => .null
  | c :: cs => cs.foldl (fun best c => if best.compare c == .lt then c else best) c

/-- The time of a message, null where there is none. -/
def timeOf (m : Option MessageRecord) : Cell := (m.map MessageRecord.time).getD .null

/-- The topic shown for a group: that of the row in which the latest time is first met, of the last
row if no row has a time. -/
def representative (rows : List (TopicRecord × Option MessageRecord)) : Option TopicRecord :=
  let latest := greatest (rows.map fun r => timeOf r.2)
  if latest = .null then rows.getLast?.map Prod.fst
  else (rows.find? fun r => (timeOf r.2).compare latest == .eq).map Prod.fst

/-- What is known of a topic: its cells, the number of its messages, and their first and last
times. -/
structure TopicRow where
  name     : Cell
  type     : Cell
  format   : Cell
  qos      : Cell
  count    : Nat
  earliest : Cell
  latest   : Cell

/-- The sum of a group. -/
def TopicRow.ofGroup? (messages : List MessageRecord) (group : List TopicRecord) :
    Option TopicRow := do
  let rows := group.flatMap (joined messages)
  let shown ← representative rows
  let times := rows.map fun r => timeOf r.2
  let ids := rows.map fun r => (r.2.map MessageRecord.id).getD .null
  pure ⟨shown.name, shown.type, shown.format, shown.qos,
    (present ids).length, least times, greatest times⟩

end Database

open Database

/-- A table that is no view, by its exact name. -/
def Database.table? (db : Database) (name : String) : Option Table :=
  db.tables.find? fun t => t.name == name && !t.isView

/-- The topics by ascending number, with the number of their messages and their times. -/
def Database.topicRows (topics messages : Table) : Except String (List TopicRow) := do
  let (ts, ms) ← records topics messages
  return (groups ts).filterMap (TopicRow.ofGroup? ms)

end RecordingIndex
