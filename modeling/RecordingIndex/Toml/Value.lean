import RecordingIndex.Toml.Number

/-!
# Toml — keys and values

A key is one part or several with dots between them.  Lists go over lines and may have comments
between their items; records stand on one line.  Lists and records nest to a fixed depth, which is
also the number of parts that a key must stay below.
-/

namespace RecordingIndex.Toml

/-- The depth that nesting must stay below. -/
def maxDepth : Nat := 80

/-! ### Keys -/

/-- Whether a key may hold `c` without quotes. -/
def isBareCharacter (c : Char) : Bool := c.isAlphanum || c == '_' || c == '-'

/-- Reads a part of a key, if there is one, and the blanks around it. -/
def part? (cs : List Char) : Except Fault (Option (String × List Char)) :=
  match skipBlanks cs with
  | []     => .ok none
  | c :: r =>
      if c = '"' ∨ c = '\'' then
        (quotedLine (c :: r)).map fun (k, r) => some (String.ofList k, skipBlanks r)
      else
        let bare := (c :: r).takeWhile isBareCharacter
        if bare = [] then .ok none
        else .ok (some (String.ofList bare, skipBlanks ((c :: r).dropWhile isBareCharacter)))

/-- Reads the further parts of a key. -/
def moreParts (cs : List Char) : Except Fault (List String × List Char) :=
  match cs with
  | '.' :: r =>
      match part? r with
      | .error f           => .error f
      | .ok none           => .ok ([], '.' :: r)
      | .ok (some (k, r')) =>
          if _ : r'.length < r.length + 1 then (moreParts r').map fun (ks, rest) => (k :: ks, rest)
          else .error .badKey
  | cs       => .ok ([], cs)
termination_by cs.length

/-- Reads a key, if there is one: its parts before the last, and the last. -/
def key? (cs : List Char) : Except Fault (Option ((List String × String) × List Char)) := do
  match ← part? cs with
  | none        => return none
  | some (k, r) =>
      let (ks, r) ← moreParts r
      if maxDepth ≤ ks.length + 1 then throw .tooDeep
      return some (((k :: ks).dropLast, (k :: ks).getLastD k), r)

/-! ### Values -/

/-- Reads a value without parts. -/
def simpleValue : List Char → Except Fault (Item × List Char)
  | 't' :: 'r' :: 'u' :: 'e' :: r        => .ok (.truth true, r)
  | 'f' :: 'a' :: 'l' :: 's' :: 'e' :: r => .ok (.truth false, r)
  | []                                   => .error .badValue
  | c :: r                               =>
      if c = '"' ∨ c = '\'' then (quoted (c :: r)).map fun (s, r) => (.text (String.ofList s), r)
      else number (c :: r)

/-- What follows the blanks, line ends and comments at the start. -/
def skipLines (inComment : Bool) : List Char → List Char
  | []     => []
  | c :: r =>
      if inComment ∧ isTextCharacter c then skipLines true r
      else if isBlank c ∨ endsLine c r then skipLines false r
      else if c = '#' then skipLines true r
      else c :: r

/-- Reads the items of a list to its end. -/
def items (value : List Char → Except Fault (Item × List Char)) (cs : List Char) :
    Except Fault (List Item × List Char) :=
  match skipLines false cs with
  | ']' :: r => .ok ([], r)
  | start    =>
      match value start with
      | .error f   => .error f
      | .ok (x, r) =>
          match skipLines false r with
          | ',' :: r =>
              if _ : r.length < cs.length then (items value r).map fun (xs, rest) => (x :: xs, rest)
              else .error .badList
          | ']' :: r => .ok ([x], r)
          | _        => .error .badList
termination_by cs.length

/-- An entry of a record or of a table: the path and the last part of its key, and its value. -/
structure Pair where
  path  : List String
  key   : String
  value : Item

/-- Reads the key of an entry of a record, if there is one. -/
def recordKey? (cs : List Char) : Except Fault (Option ((List String × String) × List Char)) :=
  match key? cs with
  | .error .tooDeep => .ok none
  | k               => k

/-- Reads the entries of a record. -/
def pairs (value : List Char → Except Fault (Item × List Char)) (cs : List Char) :
    Except Fault (List Pair × List Char) :=
  match recordKey? cs with
  | .error f                            => .error f
  | .ok none                            => .ok ([], cs)
  | .ok (some ((path, key), '=' :: r))  =>
      match value (skipBlanks r) with
      | .error f   => .error f
      | .ok (x, r) =>
          match skipBlanks r with
          | ',' :: r =>
              if _ : r.length < cs.length then
                match pairs value r with
                | .error f       => .error f
                | .ok ([], _)    => .ok ([⟨path, key, x⟩], ',' :: r)
                | .ok (ps, rest) => .ok (⟨path, key, x⟩ :: ps, rest)
              else .error .badRecord
          | r        => .ok ([⟨path, key, x⟩], r)
  | .ok (some _)                        => .error .badRecord
termination_by cs.length

/-- The record of some entries. -/
def recordOf (ps : List Pair) : Except Fault Item := do
  let t ← ps.foldlM (fun t p => Table.add Table.enterRecord none p.path p.key p.value t)
    (Table.empty .written)
  return .record t.origin t.entries

/-- Reads a value; `depth` more lists or records may begin inside one another. -/
def value : (depth : Nat) → List Char → Except Fault (Item × List Char)
  | 0,         cs     =>
      match cs with
      | '[' :: _ | '\x7b' :: _ => .error .tooDeep
      | cs                     => simpleValue cs
  | depth + 1, cs     =>
      match cs with
      | '[' :: r    => (items (value depth) r).map fun (xs, rest) => (.list xs, rest)
      | '\x7b' :: r => do
          let (ps, r) ← pairs (value depth) r
          let x ← recordOf ps
          match skipBlanks r with
          | '\x7d' :: r => return (x, r)
          | _           => throw .badRecord
      | cs          => simpleValue cs

end RecordingIndex.Toml
