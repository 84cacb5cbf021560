import RecordingIndex.Decimal.Digits
import RecordingIndex.Yaml.Cursor
import RecordingIndex.Yaml.Token.Basic

/-!
# Yaml — names, tags and directives

The marks that a node carries besides its content, and the lines that precede a document.  An
escaped octet of a tag stands in it as the character of its number.
-/

namespace RecordingIndex.Yaml

/-! ### Anchors and aliases -/

/-- Whether a name may end before `cs`. -/
def endsName (cs : List Char) : Bool :=
  endsWord cs || cs.head?.any fun c => "?:,]\x7d%@\x60".toList.contains c

/-- The name behind the indicator at a cursor. -/
def name (c : Cursor) : Except Fault (List Char × Cursor) :=
  let c := c.skip 1
  let word := c.word isWordCharacter
  let next := c.skipWhile isWordCharacter
  if word = [] ∨ !endsName next.rest then .error .badName else .ok (word, next)

/-! ### Tags -/

/-- The octets that an octet of a character's first byte announces to follow. -/
def octetsBehind? (n : Nat) : Option Nat :=
  if n < 0x80 then some 0
  else if n < 0xC0 then none
  else if n < 0xE0 then some 1
  else if n < 0xF0 then some 2
  else if n < 0xF8 then some 3
  else none

/-- Reads the characters of a tag on from `acc`; `behind` escaped octets are due. -/
def tagFrom (bracketed : Bool) (acc : List Char) (behind : Nat) (column : Nat) :
    List Char → Except Fault (List Char × List Char × Nat)
  | '%' :: a :: b :: r =>
      if Decimal.isDigit 16 a ∧ Decimal.isDigit 16 b then
        let n := Decimal.digitValue a * 16 + Decimal.digitValue b
        let acc := acc ++ [Char.ofNat n]
        if behind = 0 then
          match octetsBehind? n with
          | some k => tagFrom bracketed acc k (column + 3) r
          | none   => .error .badTag
        else if 0x80 ≤ n ∧ n < 0xC0 then tagFrom bracketed acc (behind - 1) (column + 3) r
        else .error .badTag
      else .error .badTag
  | '%' :: _           => .error .badTag
  | c :: r             =>
      if behind ≠ 0 then .error .badTag
      else if isTagCharacter bracketed c then tagFrom bracketed (acc ++ [c]) 0 (column + 1) r
      else .ok (acc, c :: r, column)
  | []                 => if behind ≠ 0 then .error .badTag else .ok (acc, [], column)

/-- The characters of a tag at a cursor. -/
def tagCharacters (bracketed : Bool) (c : Cursor) : Except Fault (List Char × Cursor) := do
  let (cs, rest, column) ← tagFrom bracketed [] 0 c.column c.rest
  return (cs, ⟨rest, c.line, column⟩)

/-- The handle at a cursor: an exclamation mark, and a word with another one if there is one. -/
def handle (c : Cursor) : List Char × Cursor :=
  let c' := c.skip 1
  let word := c'.word isWordCharacter
  let next := c'.skipWhile isWordCharacter
  if next.rest.head? = some '!' then ('!' :: word ++ ['!'], next.skip 1) else ('!' :: word, next)

/-- Whether a handle is closed by a second exclamation mark. -/
def isClosedHandle (h : List Char) : Bool := 1 < h.length && h.getLast? == some '!'

/-- The handle and the suffix of the tag at a cursor. -/
def tagParts (c : Cursor) : Except Fault (List Char × List Char × Cursor) := do
  if c.rest.drop 1 |>.head? |>.any (· == '<') then
    let (suffix, next) ← tagCharacters true (c.skip 2)
    if suffix = [] ∨ next.rest.head? ≠ some '>' then throw .badTag
    return ([], suffix, next.skip 1)
  let (h, next) := handle c
  let (suffix, next) ← tagCharacters false next
  if isClosedHandle h then
    if suffix = [] then throw .badTag
    return (h, suffix, next)
  let whole := h.drop 1 ++ suffix
  return if whole = [] then ([], ['!'], next) else (['!'], whole, next)

/-- The tag at a cursor. -/
def tag (flow : Bool) (c : Cursor) : Except Fault (Token × Cursor) := do
  let (h, suffix, next) ← tagParts c
  if endsWord next.rest || (flow && next.rest.head? == some ',') then
    return (.tag h suffix, next)
  throw .badTag

/-! ### Directives -/

/-- The digits that the number of a version may have. -/
def maxVersionDigits : Nat := 9

/-- The number of a version at a cursor. -/
def versionNumber (c : Cursor) : Except Fault (Nat × Cursor) :=
  let ds := c.word (Decimal.isDigit 10)
  if ds = [] ∨ maxVersionDigits < ds.length then .error .badDirective
  else .ok (Decimal.value 10 ds, c.skipWhile (Decimal.isDigit 10))

/-- The two numbers of a version behind the name of its directive. -/
def versionDirective (c : Cursor) : Except Fault (Token × Cursor) := do
  let (major, c) ← versionNumber (c.skipWhile isBlank)
  if c.rest.head? ≠ some '.' then throw .badDirective
  let (minor, c) ← versionNumber (c.skip 1)
  return (.versionDirective major minor, c)

/-- The handle and what it stands for, behind the name of their directive. -/
def tagDirective (c : Cursor) : Except Fault (Token × Cursor) := do
  let c := c.skipWhile isBlank
  if c.rest.head? ≠ some '!' then throw .badDirective
  let (h, c) := handle c
  if h ≠ ['!'] ∧ !isClosedHandle h then throw .badDirective
  if !c.rest.head?.any isBlank then throw .badDirective
  let (stem, c) ← tagCharacters true (c.skipWhile isBlank)
  if stem = [] ∨ !endsWord c.rest then throw .badDirective
  return (.tagDirective h stem, c)

/-- The directive at a cursor, to the end of its line. -/
def directive (c : Cursor) : Except Fault (Token × Cursor) := do
  let c := c.skip 1
  let word := c.word isWordCharacter
  let c := c.skipWhile isWordCharacter
  if word = [] ∨ !endsWord c.rest then throw .badDirective
  let (token, c) ←
    if word = "YAML".toList then versionDirective c
    else if word = "TAG".toList then tagDirective c
    else throw .badDirective
  let c := c.skipWhile isBlank
  let c := if c.rest.head? = some '#' then c.skipWhile fun x => !isBreak x else c
  if endsLine c.rest then return (token, c.skipBreak)
  throw .badDirective

end RecordingIndex.Yaml
