import RecordingIndex.Database.Basic
import RecordingIndex.Text.Utf8

/-!
# Database — images

How a database lies in the bytes of a file.  The bytes are divided into pages of one size.  A table
is a tree of pages with its rows in the leaves; a row is the list of the kinds of its cells, then
the cells.  The tree of the first page holds a row for each table and view, with the page of its own
tree and the text that defines it.

`Database.ofImage?` reads the tables of such a file.  Of a view it reads only the name, and what
lies behind the end of the bytes counts as zeros.
-/

namespace RecordingIndex.Database

/-- The bytes of a file. -/
structure Image where
  bytes : ByteArray

namespace Image

/-! ### Numbers -/

/-- The byte at an offset. -/
def byte (i : Image) (offset : Nat) : Nat :=
  if h : offset < i.bytes.size then i.bytes[offset].toNat else 0

/-- The number in `width` bytes, the greatest first. -/
def number (i : Image) (offset width : Nat) : Nat :=
  (List.range width).foldl (fun n k => n * 256 + i.byte (offset + k)) 0

/-- A number of `width` bytes with its sign in the first bit. -/
def signed (n width : Nat) : Int :=
  let bound := 1 <<< (8 * width)
  if 2 * n < bound then n else (n : Int) - bound

/-- A number of a varying width, and the offset behind it, given what its first bytes came to.
Seven bits of a byte count while its first bit is set, and all bits of the ninth byte. -/
def varyingFrom (i : Image) : (left offset n : Nat) → Nat × Nat
  | 0,        offset, n => (n * 256 + i.byte offset, offset + 1)
  | left + 1, offset, n =>
      let b := i.byte offset
      if b < 128 then (n * 128 + b, offset + 1)
      else i.varyingFrom left (offset + 1) (n * 128 + (b - 128))

/-- The number of a varying width at an offset, and the offset behind it. -/
def varying (i : Image) (offset : Nat) : Nat × Nat := i.varyingFrom 8 offset 0

/-! ### Pages -/

/-- What the bytes of a database start with. -/
def heading : List UInt8 := Utf8.ofString "SQLite format 3" ++ [0]

/-- Whether the bytes are those of a database whose texts are UTF-8. -/
def isWhole (i : Image) : Bool :=
  (List.range heading.length).map i.byte == heading.map UInt8.toNat && i.number 56 4 ≤ 1

/-- The size of a page. -/
def pageSize (i : Image) : Nat :=
  let n := i.number 16 2
  -- The greatest size does not fit into two bytes.
  if n = 1 then 65536 else n

/-- The bytes of a page that hold its content. -/
def usable (i : Image) : Nat := i.pageSize - i.byte 20

/-- The offset of a page. -/
def page (i : Image) (n : Nat) : Nat := (n - 1) * i.pageSize

/-- The offset of what a page says about itself: on the first one it stands behind the heading. -/
def start (i : Image) (n : Nat) : Nat := i.page n + if n = 1 then 100 else 0

/-- The offsets of the cells of a page; `skip` bytes stand before the list of them. -/
def cells (i : Image) (n skip : Nat) : List Nat :=
  (List.range (i.number (i.start n + 3) 2)).map fun k =>
    i.page n + i.number (i.start n + skip + 2 * k) 2

/-! ### Rows -/

/-- How much of a row of `size` bytes stands on its own page. -/
def kept (i : Image) (size : Nat) : Nat :=
  let least := (i.usable - 12) * 32 / 255 - 23
  let filled := least + (size - least) % (i.usable - 4)
  if size ≤ i.usable - 35 then size else if filled ≤ i.usable - 35 then filled else least

/-- The bytes of a row that stand on further pages, each of which names the next. -/
def further (i : Image) : (pages n left : Nat) → ByteArray
  | 0,         _, _    => .empty
  | pages + 1, n, left =>
      if n = 0 ∨ left = 0 then .empty
      else
        let o := i.page n
        let here := min left (i.usable - 4)
        i.bytes.extract (o + 4) (o + 4 + here) ++ i.further pages (i.number o 4) (left - here)

/-- The number of the row at an offset, and its bytes. -/
def row (i : Image) (offset : Nat) : Int × Image :=
  let (size, o) := i.varying offset
  let (key, o) := i.varying o
  let here := i.kept size
  let rest :=
    if here < size then i.further (i.bytes.size / i.pageSize) (i.number (o + here) 4) (size - here)
    else .empty
  (signed key 8, ⟨i.bytes.extract o (o + here) ++ rest⟩)

/-- The rows below a page, of a tree with so many levels. -/
def rows (i : Image) : (levels n : Nat) → List (Int × Image)
  | 0,          _ => []
  | levels + 1, n =>
      match i.byte (i.start n) with
      | 13 => (i.cells n 8).map i.row
      -- The last child of an inner page is named beside the list of its cells.
      | 5  =>
          ((i.cells n 12).map (i.number · 4) ++ [i.number (i.start n + 8) 4]).flatMap
            (i.rows levels)
      | _  => []

/-- No tree has more levels. -/
def maxLevels : Nat := 20

/-! ### Cells -/

/-- The widths of the numbers, by their kind. -/
def numberWidth : Nat → Nat
  | 5 => 6
  | 6 => 8
  | n => n

/-- The number that 64 bits of binary floating point stand for. -/
def real (bits : Nat) : Dyadic :=
  let e : Nat := (bits >>> 52) % 2048
  let m : Nat := bits % 1 <<< 52 + if e = 0 then 0 else 1 <<< 52
  let value : Int := if 1 <<< 63 ≤ bits then -m else m
  .ofIntWithPrec value (1075 - max e 1)

/-- The bytes in a stretch. -/
def stretch (i : Image) (offset width : Nat) : List UInt8 :=
  (i.bytes.extract offset (offset + width)).toList

/-- The cell of some kind at an offset, and the offset behind it. -/
def cell (i : Image) (offset kind : Nat) : Cell × Nat :=
  if kind = 0 then (.null, offset)
  else if kind ≤ 6 then
    let w := numberWidth kind
    (.integer (signed (i.number offset w) w), offset + w)
  else if kind = 7 then (.real (real (i.number offset 8)), offset + 8)
  else if kind < 12 then (.integer (kind - 8), offset)
  else
    let w := (kind - 12) / 2
    let bytes := i.stretch offset w
    (if kind % 2 = 0 then .blob bytes else .text (Utf8.toStringLossy bytes), offset + w)

/-- The kinds of the cells of a row, in a stretch of at most `left` bytes. -/
def kinds (i : Image) : (left offset stop : Nat) → List Nat
  | 0,        _,      _    => []
  | left + 1, offset, stop =>
      if stop ≤ offset then []
      else
        let (kind, o) := i.varying offset
        kind :: i.kinds left o stop

/-- The cells of the given kinds, from an offset on. -/
def cellsFrom (i : Image) : (offset : Nat) → List Nat → List Cell
  | _,      []      => []
  | offset, k :: ks =>
      let (c, o) := i.cell offset k
      c :: i.cellsFrom o ks

/-- The cells of the bytes of a row. -/
def record (i : Image) : List Cell :=
  let (stop, o) := i.varying 0
  i.cellsFrom stop (i.kinds stop o stop)

end Image

/-! ### Definitions of tables -/

/-- A word or a mark of a definition. -/
inductive Term where
  | word (text : String)
  | name (text : String)
  | mark (c : Char)
  deriving DecidableEq

/-- The character that ends what `c` begins, if that is a name in quotes. -/
def closing? (c : Char) : Option Char :=
  if c = '[' then some ']'
  else if c ∈ ['"', '\'', '\x60'] then some c
  else none

/-- The word of some characters, the last of them first. -/
def Term.ofWord (read : List Char) : List Term :=
  if read = [] then [] else [.word (String.ofList read.reverse)]

/-- The terms of a definition; `quote` ends the name that is being read. -/
def Term.ofChars (quote : Option Char) (read : List Char) : List Char → List Term
  | []     => ofWord read
  | c :: r =>
      match quote with
      | some q =>
          if c = q then .name (String.ofList read.reverse) :: ofChars none [] r
          else ofChars quote (c :: read) r
      | none   =>
          if (closing? c).isSome then ofWord read ++ ofChars (closing? c) [] r
          else if c.isWhitespace then ofWord read ++ ofChars none [] r
          else if c ∈ ['(', ')', ','] then ofWord read ++ .mark c :: ofChars none [] r
          else ofChars none (c :: read) r

/-- The parts of a definition, which stand between commas inside one bracket. -/
def parts : (depth : Nat) → (part : List Term) → List Term → List (List Term)
  | _,     part, []            => [part]
  | depth, part, .mark '(' :: r => parts (depth + 1) (if depth = 0 then [] else part) r
  | depth, part, .mark ')' :: r => if depth = 1 then [part] else parts (depth - 1) part r
  | depth, part, t :: r        =>
      if t = .mark ',' ∧ depth = 1 then part :: parts depth [] r
      else parts depth (part ++ [t]) r

/-- A column of a table, and whether its cells are the numbers of the rows. -/
structure Column where
  name     : String
  isRowKey : Bool

/-- The words that begin a part which is no column. -/
def constraintWords : List String := ["CONSTRAINT", "PRIMARY", "UNIQUE", "CHECK", "FOREIGN"]

/-- Whether a term is a word, in either case. -/
def Term.spells (t : Term) (s : String) : Bool :=
  match t with
  | .word w => w.toUpper = s
  | _       => false

/-- The column that a part defines. -/
def Column.ofPart? (part : List Term) : Option Column :=
  match part with
  | []               => none
  | .mark _ :: _     => none
  | .name n :: r     => some ⟨n, isKey r⟩
  | t@(.word w) :: r => if constraintWords.any t.spells then none else some ⟨w, isKey r⟩
where
  /-- Whether what follows the name makes the column the number of the row. -/
  isKey : List Term → Bool
    | a :: b :: c :: _ => a.spells "INTEGER" && b.spells "PRIMARY" && c.spells "KEY"
    | _                => false

/-- The columns of a definition. -/
def columnsOf (definition : String) : List Column :=
  (parts 0 [] (Term.ofChars none [] definition.toList)).filterMap Column.ofPart?

/-- The cells of a row as the columns show them; a missing one is null. -/
def shown (key : Int) : List Column → List Cell → List Cell
  | [],      _  => []
  | c :: cs, xs =>
      let x := xs.head?.getD .null
      (if c.isRowKey ∧ x = .null then .integer key else x) :: shown key cs xs.tail

/-- The table that a row of the schema names. -/
def Table.ofSchema? (i : Image) : List Cell → Option Table
  | [.text type, .text name, _, .integer root, .text definition] =>
      if type = "table" then
        let columns := columnsOf definition
        some ⟨name, false, columns.map (·.name),
          (i.rows Image.maxLevels root.toNat).map fun (key, r) => shown key columns r.record⟩
      else if type = "view" then some ⟨name, true, [], []⟩
      else none
  | _ => none

end Database

/-- The database in the bytes of a file, if there is one. -/
def Database.ofImage? (bytes : ByteArray) : Option Database :=
  let i : Database.Image := ⟨bytes⟩
  if i.isWhole then
    some ⟨(i.rows Database.Image.maxLevels 1).filterMap fun (_, r) =>
      Database.Table.ofSchema? i r.record⟩
  else none

end RecordingIndex
