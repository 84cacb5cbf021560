/-!
# Yaml — classes of characters

The characters that a text may hold, those that end a line, and those that words, tags and
indicators are made of.
-/

namespace RecordingIndex.Yaml

/-- Whether a text may hold `c`. -/
def isAllowed (c : Char) : Bool :=
  c == '\t' || c == '\n' || c == '\r' || (' ' ≤ c && c ≤ '~') || c == '\u0085' ||
    ('\u00A0' ≤ c && c ≤ '\uD7FF') || ('\uE000' ≤ c && c ≤ '\uFFFD') || 0x10000 ≤ c.toNat

/-- Whether `c` ends a line. -/
def isBreak (c : Char) : Bool :=
  c == '\n' || c == '\r' || c == '\u0085' || c == '\u2028' || c == '\u2029'

/-- Whether `c` divides words in a line. -/
def isBlank (c : Char) : Bool := c == ' ' || c == '\t'

/-- Whether a word ends before `cs`: at a blank, at the end of a line, or at the end. -/
def endsWord : List Char → Bool
  | []     => true
  | c :: _ => isBlank c || isBreak c

/-- Whether a line ends before `cs`. -/
def endsLine : List Char → Bool
  | []     => true
  | c :: _ => isBreak c

/-- Whether `cs` starts with the mark of a document's start or end, as a word of its own. -/
def startsDocumentMark : List Char → Bool
  | '-' :: '-' :: '-' :: r | '.' :: '.' :: '.' :: r => endsWord r
  | _ => false

/-- Whether names of anchors and handles are made of `c`. -/
def isWordCharacter (c : Char) : Bool := c.isAlphanum || c == '_' || c == '-'

/-- Whether a tag may hold `c` unescaped; some characters only between angle brackets. -/
def isTagCharacter (bracketed : Bool) (c : Char) : Bool :=
  isWordCharacter c || ";/?:@&=+$.!~*'()".toList.contains c ||
    (bracketed && (c == ',' || c == '[' || c == ']'))

/-- The characters that no plain text starts with, whatever follows. -/
def isIndicator (c : Char) : Bool := "#,[]\x7b\x7d&*!|>'\"%@\x60".toList.contains c

/-- The characters that divide the items of a bracketed collection. -/
def isFlowIndicator (c : Char) : Bool := c == ',' || c == '[' || c == ']' || c == '{' || c == '}'

/-- Whether `c` can stand unescaped wherever a text is written. -/
def isPrintable (c : Char) : Bool :=
  c == '\n' || (' ' ≤ c && c ≤ '~') || ('\u00A0' ≤ c && c ≤ '\uD7FF') ||
    ('\uE000' ≤ c && c ≤ '\uFFFD' && c != '\uFEFF') || 0x10000 ≤ c.toNat

end RecordingIndex.Yaml
