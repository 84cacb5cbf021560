import RecordingIndex.Mismatch
import RecordingIndex.Yaml.Node
import RecordingIndex.Yaml.Scalar

/-!
# Yaml — decoding

A decoder turns a node into a value or complains about the first thing, in the order of the text,
that is not as wanted.  Numbers are read off plain texts, texts off every scalar; lists come from
sequences and records from mappings, where entries of unknown keys are passed over.  A plain text
without characters is an empty list and an empty record.

A decoder may follow only so many references (`Document.decode`), so that a short text cannot stand
for an enormous value.
-/

namespace RecordingIndex.Yaml

/-- A step from a value into a part of it. -/
inductive Step where
  | key (name : List Char)
  | index (i : Nat)
  | unnamed
  deriving DecidableEq

/-- The steps from the root of a document to a value. -/
abbrev Place := List Step

/-- The text of a place. -/
def Place.text (p : Place) : String :=
  p.foldl (fun s step =>
    let stem := if s = "" then "" else s ++ "."
    match step with
    | .key name => stem ++ String.ofList name
    | .index i  => s ++ "[" ++ toString i ++ "]"
    | .unnamed  => stem ++ "?") ""

/-- Why a document is not what was wanted. -/
inductive Complaint where
  | malformed
  | mismatch (place : Place) (what : Mismatch)
  | tooManyReferences
  | notLast
  deriving DecidableEq

/-- Values are worded with the unit value for nothing, and numbers positionally. -/
def wording : Wording := ⟨"unit value", Binary64.plainFormat⟩

/-- The wording of a complaint about a document. -/
def Complaint.message (fault : Option Fault) : Complaint → String
  | .malformed         => (fault.map Fault.message).getD "unexpected end"
  | .tooManyReferences => "repetition limit exceeded"
  | .notLast           =>
      "deserializing from YAML containing more than one document is not supported"
  | .mismatch place m  =>
      (if place.text = "" then "" else place.text ++ ": ") ++ m.message wording

/-- A reading that may complain, with the number of references that it may still follow. -/
abbrev Decoding := StateT Nat (Except Complaint)

/-- A way to read the node at a place of a document. -/
abbrev Decoder (α : Type) := Document → Place → Node → Decoding α

/-! ### Unwanted nodes -/

/-- The tag of a kind of values that every document knows. -/
def standardTag (kind : String) : List Char := ("tag:yaml.org,2002:" ++ kind).toList

/-- What a plain text is, in complaints. -/
def Reading.unwanted (cs : List Char) : Reading → Unwanted
  | .nothing        => .nothing
  | .truth b        => .truth b
  | .natural n      => .integer n.toNat
  | .negative n     => .integer n
  | .wideNatural n  => .wideInteger n false
  | .wideNegative n => .wideInteger n true
  | .float x        => .float x
  | .text           => .text (String.ofList cs)

/-- The mismatch of a text with a standard tag: a reading that is there is of the wrong type. -/
def taggedMismatch (cs : List Char) (reading : Option Reading) (kind wanted : String) : Mismatch :=
  match reading with
  | some r => .wrongType (r.unwanted cs) wanted
  | none   => .wrongValue (.text (String.ofList cs)) kind

/-- The mismatch of a text where something else was wanted. -/
def scalarMismatch (tag : Option (List Char)) (cs : List Char) (spelling : Spelling)
    (wanted : String) : Mismatch :=
  let asPlain := Mismatch.wrongType ((Reading.of cs).unwanted cs) wanted
  let asText := Mismatch.wrongType (.text (String.ofList cs)) wanted
  match tag with
  | none   => if spelling = .plain then asPlain else asText
  | some t =>
      if t = standardTag "bool" then
        taggedMismatch cs ((Reading.truth? cs).map .truth) "a boolean" wanted
      else if t = standardTag "int" then
        taggedMismatch cs (Reading.integer? cs) "an integer" wanted
      else if t = standardTag "float" then
        taggedMismatch cs ((Reading.float? cs).map .float) "a float" wanted
      else if t = standardTag "null" then
        taggedMismatch cs (if Reading.isNull cs then some .nothing else none) "null" wanted
      else if t.head? = some '!' ∧ spelling = .plain then asPlain
      else asText

/-- The complaint about a node where something else was wanted. -/
def Node.complaint (place : Place) (wanted : String) : Node → Complaint
  | .scalar tag cs spelling => .mismatch place (scalarMismatch tag cs spelling wanted)
  | .sequence _             => .mismatch place (.wrongType .sequence wanted)
  | .mapping _              => .mismatch place (.wrongType .mapping wanted)
  | .alias _ | .broken      => .malformed

/-- The node that a reference leads to, or the node itself. -/
def Document.follow (d : Document) : Node → Decoding Node
  | .alias target => do
      let left ← get
      if left = 0 then throw .tooManyReferences
      set (left - 1)
      return (d.definition? target).getD .broken
  | n             => return n

namespace Decoder

/-! ### Simple values -/

/-- A text. -/
def text : Decoder String := fun d place n => do
  match ← d.follow n with
  | .scalar _ cs _ => return String.ofList cs
  | n              => throw (n.complaint place "a string")

/-- Whether a text can be a number: it is plain, or a block with the tag of integers. -/
def isNumeral (tag : Option (List Char)) (spelling : Spelling) : Bool :=
  spelling = .plain || spelling = .literal && tag = some (standardTag "int")

/-- A natural number of at most 64 bits that is below `bound`. -/
def natural (bound : Nat) (name : String) : Decoder Nat := fun d place n => do
  let n ← d.follow n
  match n with
  | .scalar tag cs spelling =>
      match if isNumeral tag spelling then Reading.natural? UInt64.size cs else none with
      | some v =>
          if v < bound then return v
          else throw (.mismatch place (.wrongValue (.integer v) name))
      | none   => throw (n.complaint place name)
  | n                       => throw (n.complaint place name)

/-- A number of 32 bits. -/
def word32 : Decoder UInt32 := fun d place n => UInt32.ofNat <$> natural UInt32.size "u32" d place n

/-- A number of 64 bits. -/
def word64 : Decoder UInt64 := fun d place n => UInt64.ofNat <$> natural UInt64.size "u64" d place n

/-! ### Lists -/

/-- The values of the items from the one numbered `i` on. -/
def items {α : Type} (item : Decoder α) (d : Document) (place : Place) (i : Nat) :
    List Node → Decoding (List α)
  | []      => return []
  | n :: ns => do
      let a ← item d (place ++ [.index i]) n
      let as ← items item d place (i + 1) ns
      return a :: as

/-- A list. -/
def list {α : Type} (item : Decoder α) : Decoder (List α) := fun d place n => do
  match ← d.follow n with
  | .sequence ns        => items item d place 0 ns
  | .scalar _ [] .plain => return []
  | n                   => throw (n.complaint place "a sequence")

/-! ### Records -/

/-- A field of a record in the making: whether it is there already, and how it is read. -/
structure Field (σ : Type) where
  name     : String
  isFilled : σ → Bool
  read     : Decoder (σ → σ)

/-- The field that a part of the record in the making is. -/
def Field.named {σ α : Type} (name : String) (get : σ → Option α) (put : α → σ → σ)
    (value : Decoder α) : Field σ :=
  ⟨name, fun s => (get s).isSome, fun d place n => put <$> value d place n⟩

/-- The record in the making with one more entry of the mapping. -/
def entry {σ : Type} (fields : List (Field σ)) (d : Document) (place : Place) (s : σ)
    (e : Node × Node) : Decoding σ := do
  let step : Step :=
    match e.1 with
    | .scalar _ cs _ => .key cs
    | _              => .unnamed
  match ← d.follow e.1 with
  | .scalar _ cs _ =>
      match fields.find? (·.name = String.ofList cs) with
      -- An unknown field is skipped, whatever its value.
      | none   => if e.2.isWhole then return s else throw .malformed
      | some f =>
          if f.isFilled s then throw (.mismatch place (.repeatedField f.name))
          let fill ← f.read d (place ++ [step]) e.2
          return fill s
  | k              => throw (k.complaint place "field identifier")

/-- A record: `empty` is filled entry by entry and then finished. -/
def record {σ α : Type} (name : String) (fields : List (Field σ)) (empty : σ)
    (finish : σ → Except Mismatch α) : Decoder α := fun d place n => do
  let s ←
    match ← d.follow n with
    | .mapping es         => es.foldlM (entry fields d place) empty
    | .scalar _ [] .plain => pure empty
    | n                   => throw (n.complaint place ("struct " ++ name))
  match finish s with
  | .ok a    => return a
  | .error m => throw (.mismatch place m)

end Decoder

/-- The references that may be followed for each event of a document. -/
def referencesPerEvent : Nat := 100

/-- The value of a document, which must be whole and the last of its stream. -/
def Document.decode {α : Type} (d : Document) (decoder : Decoder α) : Except Complaint α :=
  match (decoder d [] d.root).run (referencesPerEvent * d.size) with
  | .error c     => .error c
  | .ok (a, _) =>
      if d.fault.isSome then .error .malformed
      else if d.isLast then .ok a
      else .error .notLast

end RecordingIndex.Yaml
