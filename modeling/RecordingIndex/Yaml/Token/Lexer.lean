import RecordingIndex.Yaml.Token.Block
import RecordingIndex.Yaml.Token.Plain
import RecordingIndex.Yaml.Token.Property
import RecordingIndex.Yaml.Token.Quoted

/-!
# Yaml — the tokens of a text

`Token.lex` reads a text into tokens, as far as it can.  Block collections are opened and closed by
the columns of their items.  A scalar, an alias or a bracketed collection may turn out to be the key
of a mapping once a colon follows on its line; until this is decided the tokens from it on wait, and
only then are they handed over.
-/

namespace RecordingIndex.Yaml

/-- A place where a key may have started: the number of its first token, where it stands, and
whether only a key may stand there. -/
structure PossibleKey where
  number   : Nat
  line     : Nat
  column   : Nat
  required : Bool

/-- A reader of tokens.  `indents` are the columns of the open block collections, the innermost
first; `key` is the possible key of the innermost bracketed collection, or of the block outside all,
and `outerKeys` are those of the ones around it. -/
structure Lexer where
  cursor     : Cursor
  indents    : List Nat
  key        : Option PossibleKey
  outerKeys  : List (Option PossibleKey)
  keyAllowed : Bool
  waiting    : List Token
  handedOver : Nat

namespace Lexer

/-- The characters that a key may span. -/
def maxKeyLength : Nat := 1024

/-- A reader at the start of a text. -/
def start (cs : List Char) : Lexer := ⟨.start cs, [], none, [], true, [], 0⟩

/-- Whether the reader is inside brackets. -/
def inFlow (s : Lexer) : Bool := !s.outerKeys.isEmpty

/-- The reader with one more token, at a later place. -/
def push (s : Lexer) (t : Token) (c : Cursor) : Lexer :=
  { s with waiting := s.waiting ++ [t], cursor := c }

/-- The reader with a token put before the waiting token of a number. -/
def putBefore (s : Lexer) (number : Nat) (t : Token) : Lexer :=
  { s with waiting := s.waiting.insertIdx (number - s.handedOver) t }

/-! ### Indentation -/

/-- Whether a column lies to the right of the innermost block collection. -/
def isDeeper (indents : List Nat) (column : Nat) : Bool := indents.head?.all (· < column)

/-- Opens a block collection at a column, if it lies deeper than the innermost. -/
def openBlock (s : Lexer) (column : Nat) (number : Nat) (t : Token) : Lexer :=
  if !s.inFlow && isDeeper s.indents column then
    { s.putBefore number t with indents := column :: s.indents }
  else s

/-- The number of the next token. -/
def nextNumber (s : Lexer) : Nat := s.handedOver + s.waiting.length

/-- Closes the block collections to the right of a column, of all columns if there is none. -/
def closeBlocks (s : Lexer) (column : Option Nat) : Lexer :=
  if s.inFlow then s
  else
    let isOpen (i : Nat) : Bool := column.all (· < i)
    { s with
      waiting := s.waiting ++ (s.indents.takeWhile isOpen).map fun _ => Token.blockEnd
      indents := s.indents.dropWhile isOpen }

/-! ### Possible keys -/

/-- Gives a possible key up, unless a key is required there. -/
def dropKey (s : Lexer) : Except Fault Lexer :=
  if s.key.any (·.required) then .error .missingColon else .ok { s with key := none }

/-- Whether a possible key lies too far back. -/
def isStale (c : Cursor) (k : PossibleKey) : Bool :=
  k.line < c.line || k.column + maxKeyLength < c.column

/-- A possible key, given up if it lies too far back. -/
def refresh (c : Cursor) : Option PossibleKey → Except Fault (Option PossibleKey)
  | none   => .ok none
  | some k =>
      if !isStale c k then .ok (some k)
      else if k.required then .error .missingColon
      else .ok none

/-- Gives up the possible keys that lie too far back. -/
def dropStaleKeys (s : Lexer) : Except Fault Lexer := do
  let key ← refresh s.cursor s.key
  let outerKeys ← s.outerKeys.mapM (refresh s.cursor)
  return { s with key, outerKeys }

/-- Notes that a key may start at the cursor. -/
def noteKey (s : Lexer) : Except Fault Lexer := do
  if !s.keyAllowed then return s
  -- At the column of the innermost collection only a key can stand.
  let required := !s.inFlow && s.indents.head? == some s.cursor.column
  let s' ← s.dropKey
  return { s' with key := some ⟨s.nextNumber, s.cursor.line, s.cursor.column, required⟩ }

/-! ### Between tokens -/

/-- Skips blanks, comments and line ends; a new line allows keys outside brackets.  Tabs are blanks
only where no key can stand. -/
def skipFrom (flow : Bool) (keyAllowed comment : Bool) :
    List Char → (line column : Nat) → Cursor × Bool
  | [],     line, column => (⟨[], line, column⟩, keyAllowed)
  | c :: r, line, column =>
      if isBreak c then skipFrom flow (keyAllowed || !flow) false r (line + 1) 0
      else if comment || c == ' ' || c == '#' || (c == '\t' && (flow || !keyAllowed)) ||
          (c == '\uFEFF' && line == 0 && column == 0) then
        skipFrom flow keyAllowed (comment || c == '#') r line (column + 1)
      else (⟨c :: r, line, column⟩, keyAllowed)

/-- The reader at the next token. -/
def skipToToken (s : Lexer) : Lexer :=
  let (cursor, keyAllowed) :=
    skipFrom s.inFlow s.keyAllowed false s.cursor.rest s.cursor.line s.cursor.column
  { s with cursor, keyAllowed }

/-! ### Tokens -/

/-- A token that ends what came before it: a directive or the mark of a document. -/
def fetchMark (s : Lexer) (t : Token) (next : Cursor) : Except Fault Lexer := do
  let s ← (s.closeBlocks none).dropKey
  return { s with keyAllowed := false }.push t next

/-- The end of the text; a last line without an end is ended. -/
def fetchEnd (s : Lexer) : Except Fault Lexer :=
  let c := s.cursor
  s.fetchMark .streamEnd (if c.column = 0 then c else ⟨c.rest, c.line + 1, 0⟩)

/-- An opening bracket. -/
def fetchFlowStart (s : Lexer) (t : Token) : Except Fault Lexer := do
  let s ← s.noteKey
  return { s with key := none, outerKeys := s.key :: s.outerKeys, keyAllowed := true }.push t
    (s.cursor.skip 1)

/-- A closing bracket. -/
def fetchFlowEnd (s : Lexer) (t : Token) : Except Fault Lexer := do
  let s ← s.dropKey
  let s :=
    match s.outerKeys with
    | k :: ks => { s with key := k, outerKeys := ks }
    | []      => s
  return { s with keyAllowed := false }.push t (s.cursor.skip 1)

/-- A comma. -/
def fetchFlowEntry (s : Lexer) : Except Fault Lexer := do
  let s ← s.dropKey
  return { s with keyAllowed := true }.push .flowEntry (s.cursor.skip 1)

/-- A dash. -/
def fetchBlockEntry (s : Lexer) : Except Fault Lexer := do
  if !s.inFlow && !s.keyAllowed then throw .misplacedEntry
  let s ← (s.openBlock s.cursor.column s.nextNumber .blockSequenceStart).dropKey
  return { s with keyAllowed := true }.push .blockEntry (s.cursor.skip 1)

/-- A question mark. -/
def fetchKey (s : Lexer) : Except Fault Lexer := do
  if !s.inFlow && !s.keyAllowed then throw .misplacedKey
  let s ← (s.openBlock s.cursor.column s.nextNumber .blockMappingStart).dropKey
  return { s with keyAllowed := !s.inFlow }.push .key (s.cursor.skip 1)

/-- A colon: it makes the possible key a key, or stands for a value without one. -/
def fetchValue (s : Lexer) : Except Fault Lexer :=
  match s.key with
  -- The key mark goes before the text that turned out to be a key, which still waits.
  | some k =>
      let s := (s.putBefore k.number .key).openBlock k.column k.number .blockMappingStart
      .ok ({ s with key := none, keyAllowed := false }.push .value (s.cursor.skip 1))
  | none   =>
      if !s.inFlow && !s.keyAllowed then .error .misplacedValue
      else
        let s := s.openBlock s.cursor.column s.nextNumber .blockMappingStart
        .ok ({ s with keyAllowed := !s.inFlow }.push .value (s.cursor.skip 1))

/-- A name behind an indicator. -/
def fetchName (s : Lexer) (token : List Char → Token) : Except Fault Lexer := do
  let s ← s.noteKey
  let (n, next) ← name s.cursor
  return { s with keyAllowed := false }.push (token n) next

/-- A tag. -/
def fetchTag (s : Lexer) : Except Fault Lexer := do
  let s ← s.noteKey
  let (t, next) ← tag s.inFlow s.cursor
  return { s with keyAllowed := false }.push t next

/-- A block of lines. -/
def fetchBlock (s : Lexer) (folded : Bool) : Except Fault Lexer := do
  let s ← s.dropKey
  let (text, next) ← block folded s.indents.head? s.cursor
  return { s with keyAllowed := true }.push
    (.scalar text (if folded then .quoted else .literal)) next

/-- A quoted text. -/
def fetchQuoted (s : Lexer) (read : Cursor → Except Fault (List Char × Cursor)) :
    Except Fault Lexer := do
  let s ← s.noteKey
  let (text, next) ← read s.cursor
  return { s with keyAllowed := false }.push (.scalar text .quoted) next

/-- A plain text. -/
def fetchPlain (s : Lexer) : Except Fault Lexer := do
  let s ← s.noteKey
  let p ← plain s.inFlow ((s.indents.head?.map (· + 1)).getD 0) s.cursor
  return { s with keyAllowed := p.gap.spansLines }.push (.scalar p.text .plain) p.next

/-- Whether a plain text may start with `c` before `r`. -/
def startsPlain (flow : Bool) (c : Char) (r : List Char) : Bool :=
  !(isBlank c || isBreak c || isIndicator c || c == '-' || c == '?' || c == ':') ||
    (c == '-' && !r.head?.any isBlank) ||
    (!flow && (c == '?' || c == ':') && !endsWord r)

/-- Reads the next token where it stands. -/
def fetchHere (s : Lexer) : Except Fault Lexer :=
  let flow := s.inFlow
  match s.cursor.rest with
  | []     => s.fetchEnd
  | c :: r =>
      if s.cursor.column = 0 ∧ c = '%' then do
        let (t, next) ← directive s.cursor
        s.fetchMark t next
      else if s.cursor.column = 0 ∧ startsDocumentMark (c :: r) then
        s.fetchMark (if c = '-' then .documentStart else .documentEnd) (s.cursor.skip 3)
      else if c = '[' then s.fetchFlowStart .flowSequenceStart
      else if c = '\x7b' then s.fetchFlowStart .flowMappingStart
      else if c = ']' then s.fetchFlowEnd .flowSequenceEnd
      else if c = '\x7d' then s.fetchFlowEnd .flowMappingEnd
      else if c = ',' then s.fetchFlowEntry
      else if c = '-' ∧ endsWord r then s.fetchBlockEntry
      -- In brackets a question mark or a colon needs no blank behind it.
      else if c = '?' ∧ (flow ∨ endsWord r) then s.fetchKey
      else if c = ':' ∧ (flow ∨ endsWord r) then s.fetchValue
      else if c = '*' then s.fetchName .alias
      else if c = '&' then s.fetchName .anchor
      else if c = '!' then s.fetchTag
      else if c = '|' ∧ !flow then s.fetchBlock false
      else if c = '>' ∧ !flow then s.fetchBlock true
      else if c = '\'' then s.fetchQuoted singleQuoted
      else if c = '"' then s.fetchQuoted doubleQuoted
      else if startsPlain flow c r then s.fetchPlain
      else .error .strayCharacter

/-- Reads the next token. -/
def fetch (s : Lexer) : Except Fault Lexer := do
  let s ← s.skipToToken.dropStaleKeys
  (s.closeBlocks (some s.cursor.column)).fetchHere

/-! ### Handing over -/

/-- The number of the first token that still waits for a key to be decided. -/
def firstUndecided (s : Lexer) : Option Nat :=
  ((s.key :: s.outerKeys).filterMap (·.map PossibleKey.number)).min?

/-- The tokens that wait for nothing any more. -/
def ready (s : Lexer) : List Token :=
  match s.firstUndecided with
  | some n => s.waiting.take (n - s.handedOver)
  | none   => s.waiting

/-- The reader once the ready tokens are handed over. -/
def handOver (s : Lexer) : Lexer :=
  { s with
    waiting    := s.waiting.drop s.ready.length
    handedOver := s.handedOver + s.ready.length }

/-- The tokens from a reader on, and the fault that ends them before their time. -/
def run (s : Lexer) : List Token × Option Fault :=
  match s.fetch.bind dropStaleKeys with
  | .error f => ([], some f)
  | .ok next =>
      -- Every token but the last takes a character at least.
      let (ts, f) :=
        if _ : next.waiting.getLast? ≠ some .streamEnd ∧
            next.cursor.rest.length < s.cursor.rest.length then next.handOver.run
        else ([], none)
      (next.ready ++ ts, f)
termination_by s.cursor.rest.length
decreasing_by exact And.right ‹_›

end Lexer

/-- The tokens of a text as far as it can be read, and the fault at which they end. -/
def Token.lex (cs : List Char) : List Token × Option Fault :=
  match prepare cs with
  | .error f => ([], some f)
  | .ok body => (Lexer.start body).run

end RecordingIndex.Yaml
