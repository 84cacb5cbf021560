/-!
# Database — tables of cells

What a segment of the relational format holds: named tables and views, each with named columns and
rows of cells.  A cell is one of five kinds of value, and cells of different kinds compare by kind
(`Cell.compare`): nulls before numbers before texts before byte strings.

A cell is taken as it is stored.  The types that columns are declared with, and what is converted
for them, lie outside, and so do texts that are not UTF-8.
-/

namespace RecordingIndex

namespace Database

/-- A value of a table. -/
inductive Cell where
  | null
  | integer (value : Int)
  | real (value : Dyadic)
  | text (value : String)
  | blob (bytes : List UInt8)
  deriving DecidableEq

/-- A table, or a view of the same shape. -/
structure Table where
  name    : String
  isView  : Bool
  columns : List String
  rows    : List (List Cell)
  deriving DecidableEq

namespace Cell

/-- The kinds of cells, from the least. -/
def rank : Cell → Nat
  | .null                => 0
  | .integer _ | .real _ => 1
  | .text _              => 2
  | .blob _              => 3

/-- The order of cells: by kind, then by value, integers and reals together. -/
def compare : Cell → Cell → Ordering
  | .integer a, .integer b => Ord.compare a b
  | .integer a, .real b    => compareOfLessAndEq (a : Dyadic) b
  | .real a,    .integer b => compareOfLessAndEq a (b : Dyadic)
  | .real a,    .real b    => compareOfLessAndEq a b
  | .text a,    .text b    => Ord.compare a b
  | .blob a,    .blob b    => Ord.compare a b
  | a,          b          => Ord.compare a.rank b.rank

/-- Whether two cells hold the same value; a null is equal to nothing. -/
def equal : Cell → Cell → Bool
  | .null, _ | _, .null => false
  | a, b                => a.compare b == .eq

/-- The name of the cell's kind. -/
def kind : Cell → String
  | .null      => "Null"
  | .integer _ => "Integer"
  | .real _    => "Real"
  | .text _    => "Text"
  | .blob _    => "Blob"

end Cell

end Database

/-- The tables and views of a database. -/
structure Database where
  tables : List Database.Table
  deriving DecidableEq

end RecordingIndex
