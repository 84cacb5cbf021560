import RecordingIndex.Json.Number

/-!
# Json — records of texts

A document is read from the left, and the first thing that is not as wanted is complained about:
what does not continue the document, a value of the wrong kind, or a field that is given twice.  A
record is a map, or a list of its fields in their order.  Values of unknown keys are passed over
(`skip`); of them only the form is checked.
-/

namespace RecordingIndex.Json

/-- Why a document is not what was wanted. -/
inductive Complaint where
  | malformed
  | endOfValue
  | mismatch (what : Mismatch)
  deriving DecidableEq

/-- Values are worded with null for nothing, and numbers compactly. -/
def wording : Wording := ⟨"null", Binary64.compactFormat⟩

/-- The wording of a complaint. -/
def Complaint.message : Complaint → String
  | .malformed  => "expected value"
  | .endOfValue => "EOF while parsing a value"
  | .mismatch m => m.message wording

/-! ### Passing over values -/

/-- A collection that has not ended. -/
inductive Frame where
  | list
  | map
  deriving DecidableEq

/-- What is expected next: a value, the first part of a collection or its end, a comma or the end, a
key, or a colon. -/
inductive Expected where
  | value
  | first
  | next
  | key
  | colon
  deriving DecidableEq

/-- What a token comes to where a value is expected. -/
def stepValue (fs : List Frame) : Token → Except Complaint (List Frame × Expected)
  | .null | .truth _ | .number _ | .text _ => .ok (fs, .next)
  | .openList                              => .ok (.list :: fs, .first)
  | .openMap                               => .ok (.map :: fs, .first)
  | .cut false                             => .error .endOfValue
  | _                                      => .error .malformed

/-- What a token comes to. -/
def step : List Frame → Expected → Token → Except Complaint (List Frame × Expected)
  | fs,          .value, t          => stepValue fs t
  | .list :: fs, .first, .closeList => .ok (fs, .next)
  | .list :: fs, .first, t          => stepValue (.list :: fs) t
  | .map :: fs,  .first, .closeMap  => .ok (fs, .next)
  | .map :: fs,  .first, .text _    => .ok (.map :: fs, .colon)
  | .list :: fs, .next,  .closeList => .ok (fs, .next)
  | .list :: fs, .next,  .comma     => .ok (.list :: fs, .value)
  | .map :: fs,  .next,  .closeMap  => .ok (fs, .next)
  | .map :: fs,  .next,  .comma     => .ok (.map :: fs, .key)
  | fs,          .key,   .text _    => .ok (fs, .colon)
  | fs,          .colon, .colon     => .ok (fs, .value)
  | _,           _,      _          => .error .malformed

/-- What follows the value that is expected within some collections. -/
def skip : List Frame → Expected → List Token → Except Complaint (List Token)
  | _,  e, []      => .error (if e = .value then .endOfValue else .malformed)
  | fs, e, t :: ts =>
      match step fs e t with
      | .error c        => .error c
      | .ok ([], .next) => .ok ts
      | .ok (fs', e')   => skip fs' e' ts

/-! ### Records -/

/-- A field that is a text, or possibly nothing. -/
structure Field where
  name       : String
  isOptional : Bool

/-- The fields that are given, with their texts. -/
abbrev Fields := List (String × Option String)

/-- The complaint about a token where something else was wanted. -/
def unwanted (wanted : String) : Token → Complaint
  | .null            => .mismatch (.wrongType .nothing wanted)
  | .truth b         => .mismatch (.wrongType (.truth b) wanted)
  | .number n        =>
      match n.unwanted? with
      | some x => .mismatch (.wrongType x wanted)
      | none   => .malformed
  | .text (some s)   => .mismatch (.wrongType (.text s) wanted)
  | .openList        => .mismatch (.wrongType .sequence wanted)
  | .openMap         => .mismatch (.wrongType .mapping wanted)
  | .cut _           => .endOfValue
  | _                => .malformed

/-- Reads the text of a field. -/
def fieldText (f : Field) : List Token → Except Complaint (Option String × List Token)
  | []                    => .error .endOfValue
  | .text (some s) :: ts  => .ok (some s, ts)
  | t :: ts               =>
      if f.isOptional ∧ t = .null then .ok (none, ts) else .error (unwanted "a string" t)

/-- Takes the colon behind a key. -/
def colon : List Token → Except Complaint (List Token)
  | .colon :: ts => .ok ts
  | _            => .error .malformed

/-- Reads the entry of a key. -/
def entry (fields : List Field) (given : Fields) (key : String) (ts : List Token) :
    Except Complaint (Fields × List Token) :=
  match fields.find? (·.name = key) with
  | none   => do
      let ts ← skip [] .value (← colon ts)
      return (given, ts)
  | some f => do
      if given.any (·.1 = key) then throw (.mismatch (.repeatedField key))
      let (s, ts) ← fieldText f (← colon ts)
      return (given ++ [(key, s)], ts)

/-- Reads the entries of a map to its end, at most `fuel` of them. -/
def entries (fields : List Field) :
    (fuel : Nat) → (first : Bool) → Fields → List Token → Except Complaint (Fields × List Token)
  | 0,        _,     _,     _  => .error .malformed
  | fuel + 1, first, given, ts =>
      match first, ts with
      | _,     .closeMap :: ts               => .ok (given, ts)
      | true,  .text (some key) :: ts        => do
          let (given, ts) ← entry fields given key ts
          entries fields fuel false given ts
      | false, .comma :: .text (some key) :: ts => do
          let (given, ts) ← entry fields given key ts
          entries fields fuel false given ts
      | false, [.comma]                      => .error .endOfValue
      | _,     _                             => .error .malformed

/-- Reads the fields of a list in their order, to its end. -/
def elements : List Field → (first : Bool) → Fields → List Token →
    Except Complaint (Fields × List Token)
  | _,       _,     given, .closeList :: ts          => .ok (given, ts)
  | _ :: _,  true,  _,     []                        => .error .malformed
  | f :: fs, true,  given, ts                        => do
      let (s, ts) ← fieldText f ts
      elements fs false (given ++ [(f.name, s)]) ts
  | _ :: _,  false, _,     .comma :: .closeList :: _ => .error .malformed
  | f :: fs, false, given, .comma :: ts              => do
      let (s, ts) ← fieldText f ts
      elements fs false (given ++ [(f.name, s)]) ts
  | _,       _,     _,     _                         => .error .malformed

/-- The fields of a document that is a record. -/
def record (name : String) (fields : List Field) (text : String) : Except Complaint Fields := do
  let (given, rest) ←
    match Token.lex text.toList with
    | []              => throw .endOfValue
    | .openMap :: ts  => entries fields (ts.length + 1) true [] ts
    | .openList :: ts => elements fields true [] ts
    | t :: _          => throw (unwanted ("struct " ++ name) t)
  if rest.isEmpty then return given
  throw .malformed

end RecordingIndex.Json
