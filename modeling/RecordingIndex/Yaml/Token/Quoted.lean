import RecordingIndex.Decimal.Digits
import RecordingIndex.Yaml.Cursor
import RecordingIndex.Yaml.Token.Gap

/-!
# Yaml — quoted texts

Between single quotes a quote is written twice.  Between double quotes a backslash begins an escape:
a letter, two, four or eight hexadecimal digits, or the end of a line that is to be lost.
-/

namespace RecordingIndex.Yaml

/-- Whether a line at a column may not stand between quotes, since it starts or ends a document. -/
def isMarkLine (column : Nat) (cs : List Char) : Bool := column == 0 && startsDocumentMark cs

/-- Reads on from `acc` and `gap` to the closing single quote. -/
def singleFrom (acc : List Char) (gap : Gap) :
    List Char → (line column : Nat) → Except Fault (List Char × Cursor)
  | [],               _,    _      => .error .unclosedQuote
  | '\'' :: '\'' :: r, line, column =>
      singleFrom (acc ++ gap.text ++ ['\'']) .none r line (column + 2)
  | '\'' :: r,        line, column => .ok (acc ++ gap.text, ⟨r, line, column + 1⟩)
  | c :: r,           line, column =>
      if isMarkLine column (c :: r) then .error .markInQuotes
      else if isBlank c then singleFrom acc (gap.addBlank c) r line (column + 1)
      else if isBreak c then singleFrom acc (gap.addBreak c) r (line + 1) 0
      else singleFrom (acc ++ gap.text ++ [c]) .none r line (column + 1)

/-- The character of an escape of one letter. -/
def escapeOf? : Char → Option Char
  | '0'  => some '\x00'
  | 'a'  => some '\x07'
  | 'b'  => some '\x08'
  | 't'  => some '\t'
  | '\t' => some '\t'
  | 'n'  => some '\n'
  | 'v'  => some '\x0b'
  | 'f'  => some '\x0c'
  | 'r'  => some '\r'
  | 'e'  => some '\x1b'
  | ' '  => some ' '
  | '"'  => some '"'
  | '/'  => some '/'
  | '\\' => some '\\'
  | 'N'  => some '\u0085'
  | '_'  => some '\u00A0'
  | 'L'  => some '\u2028'
  | 'P'  => some '\u2029'
  | _    => none

/-- The digits of an escape by code point, by its letter. -/
def escapeWidth? : Char → Option Nat
  | 'x' => some 2
  | 'u' => some 4
  | 'U' => some 8
  | _   => none

/-- The character of a code point, if it is a scalar. -/
def scalar? (n : Nat) : Option Char := if n.isValidChar then some (Char.ofNat n) else none

/-- Where a reader of a double-quoted text stands: in the text, behind a backslash, or in an escape
with so many digits to come and the value of those read. -/
inductive QuoteState where
  | text
  | escape
  | digits (more : Nat) (value : Nat)

/-- Reads on from `acc` and `gap` to the closing double quote. -/
def doubleFrom (acc : List Char) (gap : Gap) :
    QuoteState → List Char → (line column : Nat) → Except Fault (List Char × Cursor)
  | _,           [],     _,    _      => .error .unclosedQuote
  | .text,       c :: r, line, column =>
      if isMarkLine column (c :: r) then .error .markInQuotes
      else if c = '"' then .ok (acc ++ gap.text, ⟨r, line, column + 1⟩)
      else if c = '\\' then doubleFrom acc gap .escape r line (column + 1)
      else if isBlank c then doubleFrom acc (gap.addBlank c) .text r line (column + 1)
      else if isBreak c then doubleFrom acc (gap.addBreak c) .text r (line + 1) 0
      else doubleFrom (acc ++ gap.text ++ [c]) .none .text r line (column + 1)
  | .escape,     c :: r, line, column =>
      -- A line end behind a backslash is lost, and so is the indentation of the next line.
      if isBreak c then doubleFrom (acc ++ gap.text) (.lines [] []) .text r (line + 1) 0
      else
        match escapeOf? c, escapeWidth? c with
        | some d, _      =>
            doubleFrom (acc ++ gap.text ++ [d]) .none .text r line (column + 1)
        | none,   some w => doubleFrom acc gap (.digits w 0) r line (column + 1)
        | none,   none   => .error .badEscape
  | .digits n v, c :: r, line, column =>
      if !Decimal.isDigit 16 c then .error .badEscape
      else if 1 < n then
        doubleFrom acc gap (.digits (n - 1) (v * 16 + Decimal.digitValue c)) r line (column + 1)
      else
        match scalar? (v * 16 + Decimal.digitValue c) with
        | some d => doubleFrom (acc ++ gap.text ++ [d]) .none .text r line (column + 1)
        | none   => .error .badEscape

/-- Reads the text between single quotes whose opening quote is at a cursor. -/
def singleQuoted (c : Cursor) : Except Fault (List Char × Cursor) :=
  singleFrom [] .none (c.skip 1).rest c.line (c.column + 1)

/-- Reads the text between double quotes whose opening quote is at a cursor. -/
def doubleQuoted (c : Cursor) : Except Fault (List Char × Cursor) :=
  doubleFrom [] .none .text (c.skip 1).rest c.line (c.column + 1)

end RecordingIndex.Yaml
