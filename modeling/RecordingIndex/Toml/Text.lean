import RecordingIndex.Decimal.Digits
import RecordingIndex.Toml.Fault

/-!
# Toml — characters and quoted texts

A text stands between double quotes, where a backslash begins an escape, or between single quotes,
where nothing does.  Between three quotes of either kind it may have several lines; the line end
right behind the opening quotes does not belong to it, and up to two quotes may stand before the
closing ones.
-/

namespace RecordingIndex.Toml

/-- Whether a text or a comment may hold `c` as it is. -/
def isTextCharacter (c : Char) : Bool := c == '\t' || (' ' ≤ c && c != '\x7f')

/-- Whether `c` divides words in a line. -/
def isBlank (c : Char) : Bool := c == ' ' || c == '\t'

/-- What follows the blanks at the start. -/
def skipBlanks (cs : List Char) : List Char := cs.dropWhile isBlank

/-- What follows the line end at the start, if there is one. -/
def lineEnd? : List Char → Option (List Char)
  | '\n' :: r         => some r
  | '\r' :: '\n' :: r => some r
  | _                 => none

/-- What has been read, and what follows it. -/
abbrev Parsed (α : Type) := Except Fault (α × List Char)

/-- A text that is read to its end, with `c` before it. -/
def push (c : Char) (p : Parsed (List Char)) : Parsed (List Char) :=
  p.map fun (s, r) => (c :: s, r)

/-! ### Escapes -/

/-- The character of an escape of one letter. -/
def escapeOf? : Char → Option Char
  | 'b'  => some '\x08'
  | 't'  => some '\t'
  | 'n'  => some '\n'
  | 'f'  => some '\x0c'
  | 'r'  => some '\r'
  | '"'  => some '"'
  | '\\' => some '\\'
  | _    => none

/-- The digits of an escape by code point, by its letter. -/
def escapeWidth? : Char → Option Nat
  | 'u' => some 4
  | 'U' => some 8
  | _   => none

/-- The character of a code point, if it is a scalar. -/
def scalar? (n : Nat) : Option Char := if n.isValidChar then some (Char.ofNat n) else none

/-- Where a reader of a quoted text stands: in the text, behind a backslash, in an escape with so
many digits to come, among the blanks behind a backslash that ends a line, or behind such a line. -/
inductive TextState where
  | text
  | escape
  | digits (more : Nat) (value : Nat)
  | lineTail
  | folded
  deriving DecidableEq

/-! ### Quoted texts -/

/-- The quotes of a text of several lines that stand before the closing ones, if it ends here, and
what follows. -/
def closingLines? (quote : Char) (cs : List Char) : Option (List Char × List Char) :=
  let run := (cs.takeWhile (· = quote)).length
  if run < 3 then none
  else
    let extra := min (run - 3) 2
    some (List.replicate extra quote, cs.drop (3 + extra))

/-- The end of a text of one line or of several, if it ends here. -/
def closing? (lines : Bool) (quote : Char) : List Char → Option (List Char × List Char)
  | []      => none
  | c :: r  =>
      if lines then closingLines? quote (c :: r) else if c = quote then some ([], r) else none

/-- Whether `c`, with `r` behind it, ends a line. -/
def endsLine (c : Char) (r : List Char) : Bool := c == '\n' || c == '\r' && r.head? == some '\n'

/-- Reads on to the closing double quotes of a text of one line or of several. -/
def basicFrom (lines : Bool) : TextState → List Char → Parsed (List Char)
  | _,           []     => .error .badText
  | .escape,     c :: r =>
      match escapeOf? c, escapeWidth? c with
      | some d, _      => push d (basicFrom lines .text r)
      | none,   some w => basicFrom lines (.digits w 0) r
      | none,   none   =>
          if lines ∧ endsLine c r then basicFrom lines .folded r
          else if lines ∧ isBlank c then basicFrom lines .lineTail r
          else .error .badText
  | .digits n v, c :: r =>
      if !Decimal.isDigit 16 c then .error .badText
      else if 1 < n then basicFrom lines (.digits (n - 1) (v * 16 + Decimal.digitValue c)) r
      else
        match scalar? (v * 16 + Decimal.digitValue c) with
        | some d => push d (basicFrom lines .text r)
        | none   => .error .badText
  | .lineTail,   c :: r =>
      if endsLine c r then basicFrom lines .folded r
      else if isBlank c then basicFrom lines .lineTail r
      else .error .badText
  | s,           c :: r =>
      if s = .folded ∧ (isBlank c ∨ endsLine c r) then basicFrom lines .folded r
      else
        match closing? lines '"' (c :: r) with
        | some done => .ok done
        | none      =>
            if c = '\\' then basicFrom lines .escape r
            else if lines ∧ c = '\r' ∧ endsLine c r then basicFrom lines .text r
            else if isTextCharacter c ∨ lines ∧ c = '\n' then push c (basicFrom lines .text r)
            else .error .badText

/-- Reads on to the closing single quotes of a text of one line or of several. -/
def literalFrom (lines : Bool) : List Char → Parsed (List Char)
  | []     => .error .badText
  | c :: r =>
      match closing? lines '\'' (c :: r) with
      | some done => .ok done
      | none      =>
          if lines ∧ c = '\r' ∧ endsLine c r then literalFrom lines r
          else if isTextCharacter c ∨ lines ∧ c = '\n' then push c (literalFrom lines r)
          else .error .badText

/-- Reads a quoted text of one line. -/
def quotedLine : List Char → Parsed (List Char)
  | '"' :: r  => basicFrom false .text r
  | '\'' :: r => literalFrom false r
  | _         => .error .badText

/-- Reads a quoted text. -/
def quoted : List Char → Parsed (List Char)
  | '"' :: '"' :: '"' :: r    => basicFrom true .text ((lineEnd? r).getD r)
  | '\'' :: '\'' :: '\'' :: r => literalFrom true ((lineEnd? r).getD r)
  | cs                        => quotedLine cs

end RecordingIndex.Toml
