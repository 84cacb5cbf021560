import RecordingIndex.Yaml.Fault
import RecordingIndex.Yaml.Token.Basic

/-!
# Yaml — events

An event is the start or the end of something in a document, or a text.  `Event.ofTokens` draws them
from tokens by a list of goals: what is expected next, and what once that is done.  A goal looks at
the next token, may take it, reports events and leaves other goals (`Goal.meet`).
-/

namespace RecordingIndex.Yaml

/-- The marks of a node: the name it can be referred to by, and its tag. -/
structure Marks where
  anchor : Option (List Char)
  tag    : Option (List Char)
  deriving DecidableEq

/-- A part of a stream of documents. -/
inductive Event where
  | streamEnd
  | documentStart
  | documentEnd
  | alias (name : List Char)
  | scalar (marks : Marks) (text : List Char) (spelling : Spelling)
  | sequenceStart (marks : Marks)
  | sequenceEnd
  | mappingStart (marks : Marks)
  | mappingEnd
  deriving DecidableEq

/-- What is expected next. -/
inductive Goal where
  | document (first : Bool)
  | content
  | documentEnd
  | node (block indentless : Bool)
  | sequenceItem
  | indentlessItem
  | mappingKey
  | mappingValue
  | flowItem (first : Bool)
  | pairKey
  | pairValue
  | pairEnd
  | flowKey (first : Bool)
  | flowValue
  | flowNoValue
  deriving DecidableEq

namespace Event

/-- A text that is not there. -/
def absent : Event := .scalar ⟨none, none⟩ [] .plain

/-- What tag handles stand for. -/
abbrev Handles := List (List Char × List Char)

/-- The handles that every document knows. -/
def standardHandles : Handles :=
  [(['!'], ['!']), (['!', '!'], "tag:yaml.org,2002:".toList)]

/-- Whether a token is a directive. -/
def isDirective : Token → Bool
  | .versionDirective _ _ | .tagDirective _ _ => true
  | _                                         => false

/-- Reads the directives before a document, and the handles they define; `version` tells whether
one has given a version. -/
def directives (version : Bool) (own : Handles) :
    List Token → Except Fault (Handles × List Token)
  | .versionDirective major minor :: ts =>
      if version then .error .repeatedDirective
      else if major = 1 ∧ (minor = 1 ∨ minor = 2) then directives true own ts
      else .error .unsupportedVersion
  | .tagDirective handle stem :: ts     =>
      if own.any (·.1 = handle) then .error .repeatedDirective
      else directives version (own ++ [(handle, stem)]) ts
  | ts                                  => .ok (own ++ standardHandles, ts)

/-- The tag that a handle and a suffix spell. -/
def resolveTag (handles : Handles) (handle suffix : List Char) : Except Fault (List Char) :=
  if handle = [] then .ok suffix
  else
    match handles.find? (·.1 = handle) with
    | some (_, stem) => .ok (stem ++ suffix)
    | none           => .error .unknownHandle

/-- Reads the marks of a node, the anchor and the tag in either order. -/
def marks (handles : Handles) : List Token → Except Fault (Marks × List Token)
  | .anchor a :: .tag h s :: ts => do return (⟨some a, some (← resolveTag handles h s)⟩, ts)
  | .tag h s :: .anchor a :: ts => do return (⟨some a, some (← resolveTag handles h s)⟩, ts)
  | .anchor a :: ts             => .ok (⟨some a, none⟩, ts)
  | .tag h s :: ts              => do return (⟨none, some (← resolveTag handles h s)⟩, ts)
  | ts                          => .ok (⟨none, none⟩, ts)

end Event

/-- What meeting a goal comes to: events, goals in its place, known handles and the tokens left. -/
structure Progress where
  events  : List Event
  goals   : List Goal
  handles : Event.Handles
  tokens  : List Token

namespace Goal

open Yaml.Event

/-- Whether a token ends an item of a block mapping before it has begun. -/
def endsMappingItem : Token → Bool
  | .key | .value | .blockEnd => true
  | _                         => false

/-- The marks of a text: the tag that stands for no tag is dropped. -/
def textMarks (m : Marks) : Marks := if m.tag = some ['!'] then { m with tag := none } else m

/-- Meets the goal of a node. -/
def meetNode (block indentless : Bool) (handles : Handles) (tokens : List Token) :
    Except (Option Fault) Progress :=
  match tokens with
  | .alias n :: ts => .ok ⟨[.alias n], [], handles, ts⟩
  | _ =>
      match Event.marks handles tokens with
      | .error f     => .error (some f)
      | .ok (m, [])  => let _ := m; .error none
      | .ok (m, t :: ts) =>
          match t, block with
          | .blockEntry, _ =>
              if indentless then
                .ok ⟨[.sequenceStart m], [.indentlessItem], handles, t :: ts⟩
              else if m = ⟨none, none⟩ then .error (some .missingContent)
              else .ok ⟨[.scalar m [] .plain], [], handles, t :: ts⟩
          | .scalar text spelling, _  =>
              .ok ⟨[.scalar (textMarks m) text spelling], [], handles, ts⟩
          | .flowSequenceStart, _     => .ok ⟨[.sequenceStart m], [.flowItem true], handles, ts⟩
          | .flowMappingStart, _      => .ok ⟨[.mappingStart m], [.flowKey true], handles, ts⟩
          | .blockSequenceStart, true => .ok ⟨[.sequenceStart m], [.sequenceItem], handles, ts⟩
          | .blockMappingStart, true  => .ok ⟨[.mappingStart m], [.mappingKey], handles, ts⟩
          | _, _                      =>
              if m = ⟨none, none⟩ then .error (some .missingContent)
              else .ok ⟨[.scalar m [] .plain], [], handles, t :: ts⟩

/-- Meets a node unless the next token satisfies `ends`, in which case there is none; `after` is
the goal behind it. -/
def meetOptional (block indentless : Bool) (ends : Token → Bool) (after : Goal)
    (handles : Handles) : List Token → Except (Option Fault) Progress
  | []      => .error none
  | t :: ts =>
      if ends t then .ok ⟨[absent], [after], handles, t :: ts⟩
      else .ok ⟨[], [.node block indentless, after], handles, t :: ts⟩

/-- Meets the goal of an item between brackets, once the comma before it is taken. -/
def meetFlowItem (handles : Handles) : List Token → Except (Option Fault) Progress
  | []                     => .error none
  | .flowSequenceEnd :: ts => .ok ⟨[.sequenceEnd], [], handles, ts⟩
  | .key :: ts             => .ok ⟨[.mappingStart ⟨none, none⟩], [.pairKey], handles, ts⟩
  | ts                     => .ok ⟨[], [.node false false, .flowItem false], handles, ts⟩

/-- Meets the goal of a key between braces, once the comma before it is taken. -/
def meetFlowKey (handles : Handles) : List Token → Except (Option Fault) Progress
  | []                    => .error none
  | .flowMappingEnd :: ts => .ok ⟨[.mappingEnd], [], handles, ts⟩
  | .key :: ts            =>
      meetOptional false false
        (fun t => t = .value ∨ t = .flowEntry ∨ t = .flowMappingEnd) .flowValue handles ts
  | ts                    => .ok ⟨[], [.node false false, .flowNoValue], handles, ts⟩

/-- Meets a goal with the tokens at hand.  Running out of tokens is no fault of this goal. -/
def meet (handles : Handles) (tokens : List Token) : Goal → Except (Option Fault) Progress
  | .document first =>
      let tokens := if first then tokens else tokens.dropWhile (· = .documentEnd)
      match tokens with
      | []               => .error none
      | .streamEnd :: ts => .ok ⟨[.streamEnd], [], handles, ts⟩
      | t :: ts          =>
          if first ∧ !isDirective t ∧ t ≠ .documentStart then
            .ok ⟨[.documentStart], [.node true false, .documentEnd], standardHandles, t :: ts⟩
          else
            match directives false [] (t :: ts) with
            | .error f                   => .error (some f)
            | .ok (hs, .documentStart :: ts) =>
                .ok ⟨[.documentStart], [.content, .documentEnd], hs, ts⟩
            | .ok (_, [])                => .error none
            | .ok _                      => .error (some .missingDocumentStart)
  | .content =>
      match tokens with
      | []      => .error none
      | t :: ts =>
          if isDirective t ∨ t = .documentStart ∨ t = .documentEnd ∨ t = .streamEnd then
            .ok ⟨[absent], [], handles, t :: ts⟩
          else .ok ⟨[], [.node true false], handles, t :: ts⟩
  | .documentEnd =>
      match tokens with
      | []                 => .error none
      | .documentEnd :: ts => .ok ⟨[.documentEnd], [.document false], standardHandles, ts⟩
      | ts                 => .ok ⟨[.documentEnd], [.document false], standardHandles, ts⟩
  | .node block indentless => meetNode block indentless handles tokens
  | .sequenceItem =>
      match tokens with
      | []                => .error none
      | .blockEntry :: ts =>
          meetOptional true false (fun t => t = .blockEntry ∨ t = .blockEnd) .sequenceItem handles
            ts
      | .blockEnd :: ts   => .ok ⟨[.sequenceEnd], [], handles, ts⟩
      | _                 => .error (some .missingDash)
  | .indentlessItem =>
      match tokens with
      | []                => .error none
      | .blockEntry :: ts =>
          meetOptional true false (fun t => t = .blockEntry ∨ endsMappingItem t) .indentlessItem
            handles ts
      | ts                => .ok ⟨[.sequenceEnd], [], handles, ts⟩
  | .mappingKey =>
      match tokens with
      | []              => .error none
      | .key :: ts      => meetOptional true true endsMappingItem .mappingValue handles ts
      | .blockEnd :: ts => .ok ⟨[.mappingEnd], [], handles, ts⟩
      | _               => .error (some .missingKey)
  | .mappingValue =>
      match tokens with
      | []           => .error none
      | .value :: ts => meetOptional true true endsMappingItem .mappingKey handles ts
      | ts           => .ok ⟨[absent], [.mappingKey], handles, ts⟩
  | .flowItem first =>
      match first, tokens with
      | _,     []                     => .error none
      | true,  ts                     => meetFlowItem handles ts
      | false, .flowSequenceEnd :: ts => .ok ⟨[.sequenceEnd], [], handles, ts⟩
      | false, .flowEntry :: ts       => meetFlowItem handles ts
      | false, _                      => .error (some .missingSeparator)
  | .pairKey =>
      match tokens with
      | []      => .error none
      | t :: ts =>
          if t = .value ∨ t = .flowEntry ∨ t = .flowSequenceEnd then
            .ok ⟨[absent], [.pairValue], handles, ts⟩
          else .ok ⟨[], [.node false false, .pairValue], handles, t :: ts⟩
  | .pairValue =>
      match tokens with
      | []           => .error none
      | .value :: ts =>
          meetOptional false false (fun t => t = .flowEntry ∨ t = .flowSequenceEnd) .pairEnd
            handles ts
      | ts           => .ok ⟨[absent], [.pairEnd], handles, ts⟩
  | .pairEnd =>
      match tokens with
      | [] => .error none
      | ts => .ok ⟨[.mappingEnd], [.flowItem false], handles, ts⟩
  | .flowKey first =>
      match first, tokens with
      | _,     []                    => .error none
      | true,  ts                    => meetFlowKey handles ts
      | false, .flowMappingEnd :: ts => .ok ⟨[.mappingEnd], [], handles, ts⟩
      | false, .flowEntry :: ts      => meetFlowKey handles ts
      | false, _                     => .error (some .missingSeparator)
  | .flowValue =>
      match tokens with
      | []           => .error none
      | .value :: ts =>
          meetOptional false false (fun t => t = .flowEntry ∨ t = .flowMappingEnd) (.flowKey false)
            handles ts
      | ts           => .ok ⟨[absent], [.flowKey false], handles, ts⟩
  | .flowNoValue =>
      match tokens with
      | [] => .error none
      | ts => .ok ⟨[absent], [.flowKey false], handles, ts⟩

end Goal

namespace Event

/-- The events of goals met in turn, at most `fuel` of them. -/
def ofGoals : (fuel : Nat) → Handles → List Goal → List Token → List Event × Option (Option Fault)
  | 0,        _,       _,       _      => ([], none)
  | _,        _,       [],      _      => ([], none)
  | fuel + 1, handles, g :: gs, tokens =>
      match g.meet handles tokens with
      | .error f => ([], some f)
      | .ok p    =>
          let (es, f) := ofGoals fuel p.handles (p.goals ++ gs) p.tokens
          (p.events ++ es, f)

/-- How many goals can be met with so many tokens. -/
def maxGoals (tokens : Nat) : Nat := 8 * tokens + 8

/-- The events of tokens that end with the fault `fault`, and the fault at which they end. -/
def ofTokens (tokens : List Token) (fault : Option Fault) : List Event × Option Fault :=
  let (es, f) := ofGoals (maxGoals tokens.length) standardHandles [.document true] tokens
  (es, f.bind fun f => f.or fault)

end Event

end RecordingIndex.Yaml
