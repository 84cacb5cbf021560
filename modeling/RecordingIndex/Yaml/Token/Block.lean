import RecordingIndex.Decimal.Digits
import RecordingIndex.Yaml.Cursor

/-!
# Yaml — block texts

A block is a heading and the lines below it that are indented.  The depth of the indentation is
given in the heading or is that of the first line that is not empty.  A literal block keeps its line
ends; a folded one joins lines that start with a word.  What becomes of the line ends behind the
last line is given in the heading.
-/

namespace RecordingIndex.Yaml

/-- What becomes of the line ends behind a block: none is kept, one, or all. -/
inductive Chomping where
  | strip
  | clip
  | keep
  deriving DecidableEq

/-- What a heading says: the depth of the lines against their parent, if given, and what becomes of
the line ends. -/
structure BlockHeading where
  depth    : Option Nat
  chomping : Chomping

namespace BlockHeading

/-- The chomping that a character asks for. -/
def chomping? : Char → Option Chomping
  | '+' => some .keep
  | '-' => some .strip
  | _   => none

/-- The depth that a character gives; a zero is no depth. -/
def depth? (c : Char) : Except Fault (Option Nat) :=
  if c = '0' then .error .badBlockHeading
  else if Decimal.isDigit 10 c then .ok (some (Decimal.digitValue c))
  else .ok none

/-- Reads the two marks of a heading, either first, each at most once. -/
def read (c : Cursor) : Except Fault (BlockHeading × Cursor) :=
  match c.rest with
  | []     => .ok (⟨none, .clip⟩, c)
  | a :: r =>
      match chomping? a with
      | some ch =>
          match r with
          | []     => .ok (⟨none, ch⟩, c.skip 1)
          | b :: _ => do
              match ← depth? b with
              | some d => .ok (⟨some d, ch⟩, c.skip 2)
              | none   => .ok (⟨none, ch⟩, c.skip 1)
      | none    => do
          match ← depth? a with
          | none   => .ok (⟨none, .clip⟩, c)
          | some d =>
              match r.head?.bind chomping? with
              | some ch => .ok (⟨some d, ch⟩, c.skip 2)
              | none    => .ok (⟨some d, .clip⟩, c.skip 1)

end BlockHeading

/-- What has been read of a block: its text, the end of its last line, the empty lines behind that,
and whether the last line starts with a blank. -/
structure BlockText where
  text    : List Char
  ending  : List Char
  empty   : List Char
  blank   : Bool

namespace BlockText

/-- Nothing. -/
def start : BlockText := ⟨[], [], [], false⟩

/-- The text to the start of a line whose first character is `c`. -/
def toLine (folded : Bool) (b : BlockText) (c : Char) : BlockText :=
  if folded ∧ b.ending = ['\n'] ∧ !b.blank ∧ !isBlank c then
    ⟨b.text ++ (if b.empty = [] then [' '] else b.empty), [], [], isBlank c⟩
  else ⟨b.text ++ b.ending ++ b.empty, [], [], isBlank c⟩

/-- The whole text, with the line ends that are kept. -/
def finish (b : BlockText) : Chomping → List Char
  | .strip => b.text
  | .clip  => b.text ++ b.ending
  | .keep  => b.text ++ b.ending ++ b.empty

end BlockText

/-- Where a reader of a block stands: before the text of a line, at a depth that is known or to be
found, or in it. -/
inductive BlockState where
  | margin (widest : Nat) (depth : Option Nat)
  | line (depth : Nat)

/-- Reads on from `b`; a depth that is not known is the widest margin so far, at least `least`. -/
def blockFrom (folded : Bool) (least : Nat) (chomping : Chomping) (b : BlockText) :
    BlockState → List Char → (line column : Nat) → Except Fault (List Char × Cursor)
  | _,             [],     line, column => .ok (b.finish chomping, ⟨[], line, column⟩)
  | .line d,       c :: r, line, column =>
      if isBreak c then
        blockFrom folded least chomping { b with ending := [c] } (.margin 0 (some d)) r (line + 1) 0
      else
        blockFrom folded least chomping { b with text := b.text ++ [c] } (.line d) r line
          (column + 1)
  | .margin w d?,  c :: r, line, column =>
      let inMargin := d?.all (column < ·)
      let widest := max w column
      if inMargin ∧ c = ' ' then
        blockFrom folded least chomping b (.margin w d?) r line (column + 1)
      else if inMargin ∧ c = '\t' then .error .tabIndentation
      else if isBreak c then
        blockFrom folded least chomping { b with empty := b.empty ++ [c] } (.margin widest d?) r
          (line + 1) 0
      else
        -- The first line that is not empty shows the depth.
        let d := d?.getD (max widest least)
        if column = d then
          let b := b.toLine folded c
          blockFrom folded least chomping { b with text := b.text ++ [c] } (.line d) r line
            (column + 1)
        else .ok (b.finish chomping, ⟨c :: r, line, column⟩)

/-- Reads the block whose heading is at a cursor, below the column `parent` if there is one. -/
def block (folded : Bool) (parent : Option Nat) (c : Cursor) :
    Except Fault (List Char × Cursor) := do
  let (heading, c) ← BlockHeading.read (c.skip 1)
  -- Blanks and a comment may stand behind the heading.
  let c := c.skipWhile isBlank
  let c := if c.rest.head? = some '#' then c.skipWhile fun x => !isBreak x else c
  if !endsLine c.rest then throw .badBlockHeading
  let c := c.skipBreak
  -- A block stands to the right of its parent, and at the top level to the right of the margin.
  let least := max ((parent.map (· + 1)).getD 0) 1
  blockFrom folded least heading.chomping .start
    (.margin 0 (heading.depth.map (parent.getD 0 + ·))) c.rest c.line c.column

end RecordingIndex.Yaml
