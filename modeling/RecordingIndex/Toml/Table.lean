import RecordingIndex.Decimal.Binary64
import RecordingIndex.Toml.Fault

/-!
# Toml — tables

A table keeps its entries in the order in which they were begun.  A table that is only on the way to
another is implied, by a header or by a dotted key; what may still be added to a table depends on
that (`Origin`).  `Table.descend` changes the table at the end of a path and makes those on the way.
-/

namespace RecordingIndex.Toml

/-- How a table has come about. -/
inductive Origin where
  | written
  | impliedByHeader
  | impliedByKey
  deriving DecidableEq

/-- What a key stands for.  Records are written in braces, tables under headers, and the rows of
tables under repeated headers. -/
inductive Item where
  | text (s : String)
  | integer (n : Int)
  | float (x : Binary64)
  | truth (b : Bool)
  | date
  | list (items : List Item)
  | record (origin : Origin) (entries : List (String × Item))
  | table (origin : Origin) (entries : List (String × Item))
  | tables (rows : List (List (String × Item)))

/-- Keys and what they stand for. -/
structure Table where
  origin  : Origin
  entries : List (String × Item)

namespace Table

/-- A table without entries. -/
def empty (origin : Origin) : Table := ⟨origin, []⟩

/-- What a key stands for. -/
def get? (t : Table) (key : String) : Option Item := (t.entries.find? (·.1 = key)).map Prod.snd

/-- The table in which `key` stands for `x`; a new key comes last. -/
def put (t : Table) (key : String) (x : Item) : Table :=
  if t.entries.any (·.1 = key) then
    { t with entries := t.entries.map fun e => if e.1 = key then (key, x) else e }
  else { t with entries := t.entries ++ [(key, x)] }

/-- The table without a key. -/
def remove (t : Table) (key : String) : Table :=
  { t with entries := t.entries.filter (·.1 ≠ key) }

/-- A way into the table that a key stands for, or will stand for, and the way back. -/
abbrev Entrance := String → Option Item → Except Fault (Table × (Table → Item))

/-- Changes the table at the end of a path, and tells something about it. -/
def descend {α : Type} (enter : Entrance) (change : Table → Except Fault (α × Table)) :
    List String → Table → Except Fault (α × Table)
  | [],      t => change t
  | k :: ks, t => do
      let (inner, leave) ← enter k (t.get? k)
      let (a, changed) ← descend enter change ks inner
      return (a, t.put k (leave changed))

/-- The item that a table is. -/
def item (t : Table) : Item := .table t.origin t.entries

/-- The way into a table: a dotted key leads only into tables that are implied, and every key leads
into the last row. -/
def enter (dotted : Bool) : Entrance := fun key x =>
  match x with
  | none                   =>
      .ok (empty (if dotted then .impliedByKey else .impliedByHeader), item)
  | some (.table origin es) =>
      if dotted ∧ origin = .written then .error (.repeatedKey key none)
      else .ok (⟨origin, es⟩, item)
  | some (.tables rows)    =>
      match rows.reverse with
      | []           => .ok (empty .written, fun t => .tables [t.entries])
      | last :: more => .ok (⟨.written, last⟩, fun t => .tables (more.reverse ++ [t.entries]))
  | some _                 => .error (.noTable key)

/-- The way into a record that only dotted keys have made. -/
def enterRecord : Entrance := fun key x =>
  match x with
  | none                    => .ok (empty .impliedByKey, fun t => .record t.origin t.entries)
  | some (.record origin es) =>
      if origin = .written then .error (.repeatedKey key none)
      else .ok (⟨origin, es⟩, fun t => .record t.origin t.entries)
  | some _                  => .error (.noTable key)

/-- The table with a new entry under the last part of a dotted key.  `dotted` tells whether there
are parts before it: those lead only into tables that dotted keys have made. -/
def addHere (dotted : Bool) (key : String) (x : Item) (named : Option (List String)) (t : Table) :
    Except Fault Table :=
  if decide (t.origin = .impliedByKey) == !dotted then .error (.repeatedKey key none)
  else if (t.get? key).isSome then .error (.repeatedKey key named)
  else .ok (t.put key x)

/-- The table with a new entry under a dotted key.  `named` is what a repeated key is said to be
in. -/
def add (enter : Entrance) (named : Option (List String)) (path : List String) (key : String)
    (x : Item) (t : Table) : Except Fault Table :=
  let change (t : Table) : Except Fault (Unit × Table) :=
    (addHere (!path.isEmpty) key x named t).map fun t => ((), t)
  (descend enter change path t).map Prod.snd

end Table

end RecordingIndex.Toml
