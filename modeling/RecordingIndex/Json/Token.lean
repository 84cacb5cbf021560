import RecordingIndex.Decimal.Digits

/-!
# Json — tokens

Tokens are read until the text ends or something cannot be one; a `bad` token then stands last.  A
word or a number that only lacks its end is told apart (`cut`), since a text that ends where a value
is wanted is complained about in its own way.

A text of escaped surrogates that are not paired is a token, but it has no value.
-/

namespace RecordingIndex.Json

/-- A number as it is written: digits before the point, behind it, and of the exponent. -/
structure Numeral where
  negative         : Bool
  whole            : List Char
  fraction         : List Char
  negativeExponent : Bool
  exponent         : List Char
  deriving DecidableEq

/-- The smallest parts of a document. -/
inductive Token where
  | openList
  | closeList
  | openMap
  | closeMap
  | comma
  | colon
  | null
  | truth (b : Bool)
  | number (n : Numeral)
  | text (s : Option String)
  | cut (inNumber : Bool)
  | bad
  deriving DecidableEq

namespace Token

/-! ### Words and numbers -/

/-- The token of a word of which `expected` is still to come. -/
def word (t : Token) : (expected : List Char) → List Char → Token × List Char
  | [],     r      => (t, r)
  | _ :: _, []     => (.cut false, [])
  | e :: es, c :: r => if c = e then word t es r else (.bad, [])

/-- The digits at the start, and what follows them; without digits, why there is no number. -/
def digits (cs : List Char) : Except Token (List Char × List Char) :=
  match cs.takeWhile (Decimal.isDigit 10), cs with
  | [], []     => .error (.cut true)
  | [], _ :: _ => .error .bad
  | ds, _      => .ok (ds, cs.drop ds.length)

/-- The digits before the point: no zero stands before others. -/
def wholeDigits (cs : List Char) : Except Token (List Char × List Char) := do
  let (ds, r) ← digits cs
  if ds.head? = some '0' ∧ ds ≠ ['0'] then throw .bad
  return (ds, r)

/-- The digits behind the point, if there is one. -/
def fractionDigits : List Char → Except Token (List Char × List Char)
  | '.' :: r => digits r
  | cs       => .ok ([], cs)

/-- The sign and the digits of the exponent, if there is one. -/
def exponentDigits (cs : List Char) : Except Token ((Bool × List Char) × List Char) :=
  match cs with
  | c :: r =>
      if c = 'e' ∨ c = 'E' then
        let (negative, r) :=
          match r with
          | '+' :: r => (false, r)
          | '-' :: r => (true, r)
          | r        => (false, r)
        (digits r).map fun (ds, r) => ((negative, ds), r)
      else .ok ((false, []), cs)
  | []     => .ok ((false, []), [])

/-- The token of a number whose sign has been read. -/
def numberFrom (negative : Bool) (cs : List Char) : Token × List Char :=
  let parts : Except Token (Token × List Char) := do
    let (whole, r) ← wholeDigits cs
    let (fraction, r) ← fractionDigits r
    let ((negativeExponent, exponent), r) ← exponentDigits r
    return (.number ⟨negative, whole, fraction, negativeExponent, exponent⟩, r)
  match parts with
  | .ok x    => x
  | .error t => (t, [])

/-! ### Texts -/

/-- A part of a text: a character, or an escape by number. -/
inductive Part where
  | char (c : Char)
  | code (n : Nat)

/-- The character of an escape of one letter. -/
def escapeOf? : Char → Option Char
  | '"'  => some '"'
  | '\\' => some '\\'
  | '/'  => some '/'
  | 'b'  => some '\x08'
  | 'f'  => some '\x0c'
  | 'n'  => some '\n'
  | 'r'  => some '\r'
  | 't'  => some '\t'
  | _    => none

/-- Where a reader of a text stands: in the text, behind a backslash, or in an escape with so many
digits to come. -/
inductive TextState where
  | text
  | escape
  | digits (more : Nat) (value : Nat)

/-- The parts of a text to its closing quote. -/
def partsFrom : TextState → List Char → Option (List Part × List Char)
  | _,           []     => none
  | .text,       c :: r =>
      if c = '"' then some ([], r)
      else if c = '\\' then partsFrom .escape r
      else if c < ' ' then none
      else (partsFrom .text r).map fun (ps, r) => (.char c :: ps, r)
  | .escape,     c :: r =>
      if c = 'u' then partsFrom (.digits 4 0) r
      else
        match escapeOf? c with
        | some d => (partsFrom .text r).map fun (ps, r) => (.char d :: ps, r)
        | none   => none
  | .digits n v, c :: r =>
      if !Decimal.isDigit 16 c then none
      else if 1 < n then partsFrom (.digits (n - 1) (v * 16 + Decimal.digitValue c)) r
      else
        (partsFrom .text r).map fun (ps, r) => (.code (v * 16 + Decimal.digitValue c) :: ps, r)

/-- Whether a number is the first half of a pair. -/
def isLeading (n : Nat) : Bool := 0xD800 ≤ n && n ≤ 0xDBFF

/-- Whether a number is the second half of a pair. -/
def isTrailing (n : Nat) : Bool := 0xDC00 ≤ n && n ≤ 0xDFFF

/-- The characters of the parts of a text; halves that are not paired have none. -/
def join? : List Part → Option (List Char)
  | []                     => some []
  | .char c :: ps          => (join? ps).map (c :: ·)
  | .code n :: .code m :: ps =>
      if isLeading n then
        if isTrailing m then
          (join? ps).map (Char.ofNat ((n - 0xD800) * 0x400 + (m - 0xDC00) + 0x10000) :: ·)
        else none
      else if isTrailing n then none
      else (join? (.code m :: ps)).map (Char.ofNat n :: ·)
  | .code n :: ps          =>
      if isLeading n || isTrailing n then none else (join? ps).map (Char.ofNat n :: ·)

/-- The token of a text whose opening quote has been read. -/
def textFrom (cs : List Char) : Token × List Char :=
  match partsFrom .text cs with
  | some (ps, r) => (.text ((join? ps).map String.ofList), r)
  | none         => (.bad, [])

/-! ### Documents -/

/-- Whether `c` may stand between tokens. -/
def isBlank (c : Char) : Bool := c == ' ' || c == '\t' || c == '\n' || c == '\r'

/-- The token that starts with `c`. -/
def first (c : Char) (r : List Char) : Token × List Char :=
  match c with
  | '['    => (.openList, r)
  | ']'    => (.closeList, r)
  | '\x7b' => (.openMap, r)
  | '\x7d' => (.closeMap, r)
  | ','    => (.comma, r)
  | ':'    => (.colon, r)
  | 'n'    => word .null ['u', 'l', 'l'] r
  | 't'    => word (.truth true) ['r', 'u', 'e'] r
  | 'f'    => word (.truth false) ['a', 'l', 's', 'e'] r
  | '"'    => textFrom r
  | '-'    => numberFrom true r
  | c      => if Decimal.isDigit 10 c then numberFrom false (c :: r) else (.bad, [])

/-- The tokens of a text. -/
def lex (cs : List Char) : List Token :=
  match cs.dropWhile isBlank with
  | []     => []
  | c :: r =>
      let t := first c r
      if _ : t.2.length < cs.length then t.1 :: lex t.2 else [t.1]
termination_by cs.length

end Token

end RecordingIndex.Json
