import RecordingIndex.Yaml.Character
import RecordingIndex.Yaml.Scalar

/-!
# Yaml — how a text is written

A text is written plainly, in single quotes, in double quotes, or as a literal block of lines
(`Style.of`).  The style is wished for by what the text says, a block for several lines, quotes for
what would stand for something else if it stood plainly, and given up for a safer one where the
characters of the text do not allow it.  `Style.write` writes a text after a key or a dash.
-/

namespace RecordingIndex.Yaml

/-- The ways to write a text. -/
inductive Style where
  | plain
  | single
  | double
  | literal
  deriving DecidableEq

namespace Style

/-! ### The choice of a style -/

/-- Whether a text that stands plainly is read as itself. -/
def readsAsItself (s : List Char) : Bool := Reading.of s = .text ∧ ¬ Reading.isZeroLed s

/-- The style that a text asks for. -/
def wished (s : List Char) : Style :=
  if s.contains '\n' then .literal
  else if readsAsItself s then .plain
  else .single

/-- Whether an indicator stands in the rest of a text; `afterBlank` tells what precedes it. -/
def indicatorInside (afterBlank : Bool) : List Char → Bool
  | []     => false
  | c :: r =>
      (c == ':' && endsWord r) || (c == '#' && afterBlank) ||
        indicatorInside (isBlank c || isBreak c) r

/-- Whether a text holds what has a meaning of its own in block context. -/
def hasIndicator : List Char → Bool
  | []     => false
  | c :: r =>
      "---".toList.isPrefixOf (c :: r) || "...".toList.isPrefixOf (c :: r) || isIndicator c ||
        ((c == '?' || c == ':' || c == '-') && endsWord r) ||
        indicatorInside (isBlank c || isBreak c) r

/-- Whether a character of the first kind stands directly before one of the second. -/
def adjacent (p q : Char → Bool) : List Char → Bool
  | c :: d :: r => (p c && q d) || adjacent p q (d :: r)
  | _           => false

/-- Whether the first or the last character is of a kind. -/
def atEdge (p : Char → Bool) (s : List Char) : Bool := s.head?.any p || s.getLast?.any p

/-- Whether `c` is the space that indents lines. -/
def isSpace (c : Char) : Bool := c == ' '

/-- Whether only double quotes keep the text. -/
def needsEscapes (s : List Char) : Bool :=
  s.any (fun c => !isPrintable c) || adjacent isSpace isBreak s

/-- Whether a text may stand plainly. -/
def allowsPlain (s : List Char) : Bool :=
  !needsEscapes s && !hasIndicator s && !s.any isBreak && !atEdge isSpace s

/-- Whether a text may stand in single quotes. -/
def allowsSingle (s : List Char) : Bool := !needsEscapes s && !adjacent isBreak isSpace s

/-- Whether a text may stand as a block of lines. -/
def allowsLiteral (s : List Char) : Bool := !needsEscapes s && !s.getLast?.any isSpace

/-- The style in which a text is written. -/
def of (s : List Char) : Style :=
  match wished s with
  | .literal => if allowsLiteral s then .literal else .double
  | .plain   => if allowsPlain s then .plain else if allowsSingle s then .single else .double
  | _        => if allowsSingle s then .single else .double

/-! ### Writing in a style -/

/-- The indentation of a line. -/
def spaces (n : Nat) : List Char := List.replicate n ' '

/-- The inside of single quotes: a quote is doubled, a line is indented. -/
def singleBody (indent : Nat) (atStart : Bool) : List Char → List Char
  | []     => if atStart then spaces indent else []
  | c :: r =>
      if isBreak c then c :: singleBody indent true r
      else
        (if atStart then spaces indent else []) ++
          (if c = '\'' then ['\'', '\''] else [c]) ++ singleBody indent false r

/-- The letter of an escape, for the characters that have one. -/
def escapeLetter? : Char → Option Char
  | '\x00'   => some '0'
  | '\x07'   => some 'a'
  | '\x08'   => some 'b'
  | '\t'     => some 't'
  | '\n'     => some 'n'
  | '\x0b'   => some 'v'
  | '\x0c'   => some 'f'
  | '\r'     => some 'r'
  | '\x1b'   => some 'e'
  | '"'      => some '"'
  | '\\'     => some '\\'
  | '\u0085' => some 'N'
  | '\u2028' => some 'L'
  | '\u2029' => some 'P'
  | _        => none

/-- A character inside double quotes. -/
def escaped (c : Char) : List Char :=
  match escapeLetter? c with
  | some l => ['\\', l]
  | none   =>
      if isPrintable c then [c]
      else if c.toNat ≤ 0xFF then '\\' :: 'x' :: Decimal.hexadecimal 2 c.toNat
      else if c.toNat ≤ 0xFFFF then '\\' :: 'u' :: Decimal.hexadecimal 4 c.toNat
      else '\\' :: 'U' :: Decimal.hexadecimal 8 c.toNat

/-- The lines of a block, each that is not empty indented. -/
def literalBody (indent : Nat) (atStart : Bool) : List Char → List Char
  | []     => []
  | c :: r =>
      if isBreak c then c :: literalBody indent true r
      else (if atStart then spaces indent else []) ++ c :: literalBody indent false r

/-- The mark of what becomes of the breaks at the end of a block: none is kept, one, or all. -/
def chompMark (s : List Char) : List Char :=
  match s.reverse with
  -- A break directly behind a character is kept without a mark.
  | c :: d :: _ => if !isBreak c then ['-'] else if isBreak d then ['+'] else []
  | [c]         => if isBreak c then ['+'] else ['-']
  | []          => ['-']

/-- The heading of a block; the depth is given where the first line does not show it. -/
def literalHeading (s : List Char) : List Char :=
  '|' :: (if s.head?.any (fun c => isSpace c || isBreak c) then ['2'] else []) ++ chompMark s

/-- A text in its style, to the end of its last line, whose further lines are at `indent`. -/
def write (indent : Nat) (s : List Char) : List Char :=
  match of s with
  | .plain   => s ++ ['\n']
  | .single  => '\'' :: singleBody indent false s ++ ['\'', '\n']
  | .double  => '"' :: s.flatMap escaped ++ ['"', '\n']
  | .literal =>
      literalHeading s ++ '\n' :: literalBody indent true s ++
        if s.getLast?.any isBreak then [] else ['\n']

end Style

end RecordingIndex.Yaml
