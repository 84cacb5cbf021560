import RecordingIndex.Toml.Value

/-!
# Toml — documents

A document is read line by line.  Entries go into the current table, which a header opens; it takes
its place in the document when the next header comes, or the end.  A table that other headers have
implied is taken up again when a header of its own comes, with what it holds, and then stands last.
-/

namespace RecordingIndex.Toml

/-! ### Headers -/

/-- A character of a key between double quotes. -/
def escaped (c : Char) : List Char :=
  match c with
  | '"'    => ['\\', '"']
  | '\\'   => ['\\', '\\']
  | '\x08' => ['\\', 'b']
  | '\x0c' => ['\\', 'f']
  | '\n'   => ['\\', 'n']
  | '\r'   => ['\\', 'r']
  | c      => if isTextCharacter c then [c] else '\\' :: 'u' :: Decimal.hexadecimal 4 c.toNat

/-- The text of a key in the complaint that a header repeats it: bare, between double quotes without
escapes, between single quotes, or with escapes, whichever is the first to do. -/
def shownKey (key : String) : String :=
  let cs := key.toList
  if cs ≠ [] ∧ cs.all isBareCharacter then key
  else if cs.all fun c => isTextCharacter c && c != '"' && c != '\\' then "\"" ++ key ++ "\""
  else if cs.all fun c => isTextCharacter c && c != '\'' then "'" ++ key ++ "'"
  else String.ofList ('"' :: cs.flatMap escaped ++ ['"'])

/-- The complaint that a header repeats its last part. -/
def repeatedHeader (path : List String) (key : String) : Fault :=
  .repeatedKey (shownKey key) (some path)

/-- A document that is being read: the tables that are complete, the current one with the path of
its header, and whether it is one row of many. -/
structure Reader where
  root    : Table
  current : Table
  path    : List String
  isRow   : Bool

namespace Reader

/-- The reader before the first line. -/
def start : Reader := ⟨.empty .written, .empty .written, [], false⟩

/-- The reader with an entry in the current table. -/
def add (s : Reader) (p : Pair) : Except Fault Reader := do
  let current ← Table.add (Table.enter true) (some s.path) p.path p.key p.value s.current
  return { s with current }

/-- The document with the current table in its place. -/
def close (s : Reader) : Except Fault Table :=
  match s.path.getLast? with
  | none     => .ok s.current
  | some key =>
      let place (t : Table) : Except Fault (Unit × Table) :=
        match s.isRow, t.get? key with
        | true,  some (.tables rows) =>
            .ok ((), t.put key (.tables (rows ++ [s.current.entries])))
        | false, none                => .ok ((), t.put key s.current.item)
        | _,     _                   => .error (repeatedHeader s.path.dropLast key)
      (Table.descend (Table.enter false) place s.path.dropLast s.root).map Prod.snd

/-- The reader behind the header of one of many rows. -/
def openRow (s : Reader) (path : List String) (key : String) : Except Fault Reader := do
  let begin (t : Table) : Except Fault (Unit × Table) :=
    match t.get? key with
    | none             => .ok ((), t.put key (.tables []))
    | some (.tables _) => .ok ((), t)
    | some _           => .error (repeatedHeader path key)
  let (_, root) ← Table.descend (Table.enter false) begin path (← s.close)
  return ⟨root, .empty .written, path ++ [key], true⟩

/-- The reader behind the header of a table. -/
def openTable (s : Reader) (path : List String) (key : String) : Except Fault Reader := do
  let takeUp (t : Table) : Except Fault (List (String × Item) × Table) :=
    match t.get? key with
    | none                             => .ok ([], t)
    | some (.table .impliedByHeader es) => .ok (es, t.remove key)
    | some _                           => .error (repeatedHeader path key)
  let (entries, root) ← Table.descend (Table.enter false) takeUp path (← s.close)
  return ⟨root, ⟨.written, entries⟩, path ++ [key], false⟩

end Reader

/-! ### Lines -/

/-- What follows the end of a line, which is a line end or the end of the text. -/
def lineEnd (cs : List Char) : Except Fault (List Char) :=
  match cs, lineEnd? cs with
  | [], _      => .ok []
  | _,  some r => .ok r
  | _,  none   => .error .badLine

/-- What follows a comment, if there is one at the start. -/
def skipComment : List Char → List Char
  | '#' :: r => r.dropWhile isTextCharacter
  | cs       => cs

/-- What follows a line of which only blanks and a comment are left. -/
def lineTail (cs : List Char) : Except Fault (List Char) := lineEnd (skipComment (skipBlanks cs))

/-- Reads the key of a header and the brackets behind it. -/
def header (brackets : List Char) (cs : List Char) :
    Except Fault ((List String × String) × List Char) := do
  match ← key? cs with
  | none          => throw .badKey
  | some (key, r) =>
      if brackets.isPrefixOf r then return (key, r.drop brackets.length)
      throw .badLine

/-- Reads a line that holds more than blanks. -/
def line (s : Reader) (cs : List Char) : Except Fault (Reader × List Char) :=
  match cs with
  | '#' :: _        => do return (s, ← lineEnd (skipComment cs))
  | '[' :: '[' :: r => do
      let ((path, key), r) ← header [']', ']'] r
      let r ← lineTail r
      return (← s.openRow path key, r)
  | '[' :: r        => do
      let ((path, key), r) ← header [']'] r
      let r ← lineTail r
      return (← s.openTable path key, r)
  | cs              => do
      if let some r := lineEnd? cs then return (s, r)
      match ← key? cs with
      | some ((path, key), '=' :: r) =>
          let (x, r) ← value (maxDepth - 1) (skipBlanks r)
          let r ← lineTail r
          return (← s.add ⟨path, key, x⟩, r)
      | _                            => throw .badKey

/-- Reads lines to the end. -/
def lines (s : Reader) (cs : List Char) : Except Fault Reader :=
  match skipBlanks cs with
  | []     => .ok s
  | c :: r =>
      match line s (c :: r) with
      | .error f        => .error f
      | .ok (next, rest) =>
          if _ : rest.length < cs.length then lines next rest else .error .badLine
termination_by cs.length

/-- The document of a text, which may begin with a byte order mark. -/
def Table.ofText (cs : List Char) : Except Fault Table :=
  let body :=
    match cs with
    | '\uFEFF' :: r => r
    | cs            => cs
  (lines .start body).bind Reader.close

end RecordingIndex.Toml
