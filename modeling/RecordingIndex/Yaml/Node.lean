import RecordingIndex.Yaml.Event
import RecordingIndex.Yaml.Token.Lexer

/-!
# Yaml — the tree of a document

A node is a text, a sequence, a mapping, or a reference to a node with an anchor.  The tree of the
first document of a stream is built event by event (`Builder.run`); collections that have begun and
not ended wait in frames.  Where a stream ends too early, every collection that is still open ends
in a `broken` node, so that what stands before the fault can be read.

An anchor's target is the number of different names before it, so a name that is used again gets a
target of its own.  Where two anchors share a target, it stands for the one that began later.
-/

namespace RecordingIndex.Yaml

/-- A part of a document. -/
inductive Node where
  | scalar (tag : Option (List Char)) (text : List Char) (spelling : Spelling)
  | sequence (items : List Node)
  | mapping (entries : List (Node × Node))
  | alias (target : Nat)
  | broken

namespace Node

/-- A text that is not there. -/
def absent : Node := .scalar none [] .plain

mutual

/-- Whether nothing in a node is broken. -/
def isWhole : Node → Bool
  | .scalar _ _ _    => true
  | .sequence items  => areWhole items
  | .mapping entries => entriesAreWhole entries
  | .alias _         => true
  | .broken          => false

/-- Whether nothing in some nodes is broken. -/
def areWhole : List Node → Bool
  | []      => true
  | n :: ns => n.isWhole && areWhole ns

/-- Whether nothing in some entries is broken. -/
def entriesAreWhole : List (Node × Node) → Bool
  | []           => true
  | (k, v) :: es => k.isWhole && v.isWhole && entriesAreWhole es

end

end Node

/-- What an anchor marks: a target of references, and when its node began. -/
structure Anchor where
  target : Nat
  begun  : Nat

/-- A node with an anchor. -/
structure Definition where
  anchor : Anchor
  node   : Node

/-- A document: its tree, the nodes that references can lead to, the number of its events, the
fault that it ends with, and whether no other document follows. -/
structure Document where
  root        : Node
  definitions : List Definition
  size        : Nat
  fault       : Option Fault
  isLast      : Bool

/-- What a target stands for. -/
def Document.definition? (d : Document) (target : Nat) : Option Node :=
  let latest (best : Option Definition) (x : Definition) : Option Definition :=
    if x.anchor.target ≠ target then best
    else if best.all (·.anchor.begun ≤ x.anchor.begun) then some x else best
  (d.definitions.foldl latest none).map Definition.node

/-- A collection that has not ended, with its last parts first. -/
inductive Content where
  | sequence (items : List Node)
  | mapping (entries : List (Node × Node)) (key : Option Node)

namespace Content

/-- The collection with one more node. -/
def add (n : Node) : Content → Content
  | .sequence items           => .sequence (n :: items)
  | .mapping entries none     => .mapping entries (some n)
  | .mapping entries (some k) => .mapping ((k, n) :: entries) none

/-- The collection as far as it is complete. -/
def node : Content → Node
  | .sequence items    => .sequence items.reverse
  | .mapping entries _ => .mapping entries.reverse

/-- The collection that ends in a broken node. -/
def spoil : Content → Content
  | .sequence items     => .sequence (.broken :: items)
  | .mapping entries k? => .mapping ((k?.getD .broken, .broken) :: entries) none

end Content

/-- A collection that has not ended, and its anchor. -/
structure Frame where
  anchor  : Option Anchor
  content : Content

/-- A document that is being built.  The innermost frame is the first. -/
structure Builder where
  frames      : List Frame
  root        : Option Node
  names       : List (List Char × Nat)
  definitions : List Definition
  size        : Nat

namespace Builder

/-- The builder before the first event. -/
def start : Builder := ⟨[], none, [], [], 0⟩

/-- The anchor of a node that begins now, and the builder that knows its name. -/
def mark (b : Builder) : Option (List Char) → Option Anchor × Builder
  | none      => (none, b)
  | some name =>
      let others := b.names.filter (·.1 ≠ name)
      (some ⟨b.names.length, b.size⟩, { b with names := (name, b.names.length) :: others })

/-- The builder that knows what an anchor marks. -/
def define (b : Builder) (anchor : Option Anchor) (n : Node) : Builder :=
  match anchor with
  | none   => b
  | some a => { b with definitions := b.definitions ++ [⟨a, n⟩] }

/-- The builder with a node in the innermost collection, or as the root. -/
def place (b : Builder) (n : Node) : Builder :=
  match b.frames with
  | []      => { b with root := some n }
  | f :: fs => { b with frames := { f with content := f.content.add n } :: fs }

/-- The builder with a node that is complete at once. -/
def leaf (b : Builder) (name : Option (List Char)) (n : Node) : Builder :=
  let (anchor, b) := b.mark name
  { (b.define anchor n).place n with size := b.size + 1 }

/-- The builder with one more collection. -/
def enter (b : Builder) (name : Option (List Char)) (c : Content) : Builder :=
  let (anchor, b) := b.mark name
  { b with frames := ⟨anchor, c⟩ :: b.frames, size := b.size + 1 }

/-- The builder whose innermost collection is complete. -/
def leave (b : Builder) : Builder :=
  match b.frames with
  | []      => b
  | f :: fs =>
      let n := f.content.node
      { ({ b with frames := fs }.define f.anchor n).place n with size := b.size + 1 }

/-- The builder whose innermost collection ends in a broken node. -/
def leaveSpoiled (b : Builder) : Builder :=
  match b.frames with
  | []      => b
  | f :: fs => { b with frames := { f with content := f.content.spoil } :: fs }.leave

/-- The document so far, with all that is open broken off. -/
def abandon (b : Builder) (fault : Option Fault) : Document :=
  let last := b.frames.foldl (fun b _ => b.leaveSpoiled) b
  ⟨last.root.getD .broken, last.definitions, b.size, fault, true⟩

/-- The first document of a stream that ends with `fault`. -/
def run (b : Builder) (fault : Option Fault) : List Event → Document
  | []                                => b.abandon fault
  | .streamEnd :: _                   => ⟨.absent, [], 1, none, true⟩
  | .documentStart :: es              => b.run fault es
  | .documentEnd :: es                =>
      ⟨b.root.getD .broken, b.definitions, b.size, none, es = [.streamEnd]⟩
  | .alias name :: es                 =>
      match b.names.find? (·.1 = name) with
      | some (_, target) => (b.leaf none (.alias target)).run fault es
      | none             => b.abandon (some .unknownAnchor)
  | .scalar marks text spelling :: es =>
      (b.leaf marks.anchor (.scalar marks.tag text spelling)).run fault es
  | .sequenceStart marks :: es        => (b.enter marks.anchor (.sequence [])).run fault es
  | .mappingStart marks :: es         => (b.enter marks.anchor (.mapping [] none)).run fault es
  | .sequenceEnd :: es                => b.leave.run fault es
  | .mappingEnd :: es                 => b.leave.run fault es

end Builder

/-- The first document of a text. -/
def Document.ofText (cs : List Char) : Document :=
  let (tokens, lexical) := Token.lex cs
  let (events, fault) := Event.ofTokens tokens lexical
  Builder.start.run fault events

end RecordingIndex.Yaml
