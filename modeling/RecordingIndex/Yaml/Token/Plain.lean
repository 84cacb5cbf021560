import RecordingIndex.Yaml.Cursor
import RecordingIndex.Yaml.Token.Gap

/-!
# Yaml — plain texts

A plain text runs to a colon that ends a word, to a comment, to a line that is not indented enough
or that starts a document, and between brackets to an indicator of the collection.
-/

namespace RecordingIndex.Yaml

/-- A text that has been read, the gap behind it and the place behind the gap. -/
structure PlainText where
  text : List Char
  gap  : Gap
  next : Cursor

/-- Whether `cs` starts with what may not follow a colon between brackets. -/
def startsFlowMark : List Char → Bool
  | []     => false
  | c :: _ => isFlowIndicator c || c == '?'

/-- Reads a plain text on from `acc` and `gap`; further lines are indented by `indent` columns. -/
def plainFrom (flow : Bool) (indent : Nat) (acc : List Char) (gap : Gap) (inWord : Bool) :
    List Char → (line column : Nat) → Except Fault PlainText
  | [],     line, column => .ok ⟨acc, gap, ⟨[], line, column⟩⟩
  | c :: r, line, column =>
      if isBlank c then
        if gap.spansLines ∧ column < indent ∧ c = '\t' then .error .tabIndentation
        else plainFrom flow indent acc (gap.addBlank c) false r line (column + 1)
      else if isBreak c then plainFrom flow indent acc (gap.addBreak c) false r (line + 1) 0
      else if !inWord && (c == '#' || (column == 0 && startsDocumentMark (c :: r)) ||
          (!flow && gap.spansLines && column < indent)) then
        .ok ⟨acc, gap, ⟨c :: r, line, column⟩⟩
      else if flow && c == ':' && startsFlowMark r then .error .colonInFlow
      else if (c == ':' && endsWord r) || (flow && isFlowIndicator c) then
        .ok ⟨acc, gap, ⟨c :: r, line, column⟩⟩
      else plainFrom flow indent (acc ++ gap.text ++ [c]) .none true r line (column + 1)

/-- Reads the plain text at a cursor. -/
def plain (flow : Bool) (indent : Nat) (c : Cursor) : Except Fault PlainText :=
  plainFrom flow indent [] .none false c.rest c.line c.column

end RecordingIndex.Yaml
