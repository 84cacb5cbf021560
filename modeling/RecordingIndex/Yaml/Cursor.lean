import RecordingIndex.Yaml.Character
import RecordingIndex.Yaml.Fault

/-!
# Yaml — places in a text

A cursor is what remains of a text with the line and the column where it starts.  Texts are prepared
before they are read (`lines`): every spelling of a plain line end becomes one line feed.
-/

namespace RecordingIndex.Yaml

/-- What remains of a text, and where it starts. -/
structure Cursor where
  rest   : List Char
  line   : Nat
  column : Nat

namespace Cursor

/-- The start of a text. -/
def start (cs : List Char) : Cursor := ⟨cs, 0, 0⟩

/-- The cursor behind `n` characters of its line. -/
def skip (c : Cursor) (n : Nat) : Cursor := ⟨c.rest.drop n, c.line, c.column + n⟩

/-- The cursor behind the characters of its line that satisfy `p`. -/
def skipWhile (c : Cursor) (p : Char → Bool) : Cursor :=
  ⟨c.rest.dropWhile p, c.line, c.column + (c.rest.takeWhile p).length⟩

/-- The cursor behind the end of its line, if it is there. -/
def skipBreak (c : Cursor) : Cursor :=
  match c.rest with
  | b :: r => if isBreak b then ⟨r, c.line + 1, 0⟩ else c
  | []     => c

/-- The characters that satisfy `p` directly at the cursor. -/
def word (c : Cursor) (p : Char → Bool) : List Char := c.rest.takeWhile p

end Cursor

/-- A text whose lines end in a line feed where they ended in a carriage return, with or without a
line feed, or in a next-line character. -/
def lines : List Char → List Char
  | '\r' :: '\n' :: r => '\n' :: lines r
  | '\r' :: r         => '\n' :: lines r
  | '\u0085' :: r     => '\n' :: lines r
  | c :: r            => c :: lines r
  | []                => []

/-- The text that is read: without a byte order mark, of allowed characters only. -/
def prepare (cs : List Char) : Except Fault (List Char) :=
  let body :=
    match cs with
    | '\uFEFF' :: r => r
    | cs            => cs
  if body.all isAllowed then .ok (lines body) else .error .controlCharacter

end RecordingIndex.Yaml
