import RecordingIndex.Log.Event

/-!
# Log — filters

A filter is a list of directives, each with the gravest verbosity that it lets pass.  Of those that
care about an event the most specific decides: the one with the longest target, and then the one
that names the most fields (`Filter.allows`).  An event that none cares about does not pass.

A directive is a verbosity, a target, or both with an equals sign between them.  Behind the target
may stand a span in brackets, and behind its name fields in braces.  No event of this program stands
in a span, so a directive that names one, or a value of a field, lets nothing pass.
-/

namespace RecordingIndex.Log

/-- The rank of the least grave level that passes; nothing has rank zero. -/
abbrev Verbosity := Nat

/-- Why a directive is none. -/
inductive DirectiveFault where
  | badForm
  | badVerbosity
  deriving DecidableEq

/-- The wording of a reason. -/
def DirectiveFault.message : DirectiveFault → String
  | .badForm      => "invalid filter directive"
  | .badVerbosity =>
      "error parsing level filter: expected one of \"off\", \"error\", \"warn\", \"info\", " ++
        "\"debug\", \"trace\", or a number 0-5"

/-- A rule of a filter: which events it cares about, and which of those pass. -/
structure Directive where
  target       : Option String
  fields       : List String
  isOnSpans    : Bool
  verbosity    : Verbosity
  deriving DecidableEq

/-! ### Reading a directive -/

/-- The greatest verbosity. -/
def everything : Verbosity := 5

/-- The verbosities by name. -/
def verbosityNames : List (String × Verbosity) :=
  [("", 1), ("off", 0), ("error", 1), ("warn", 2), ("info", 3), ("debug", 4), ("trace", 5)]

/-- The number that a text spells in digits, with at most one plus sign. -/
def numberOf? (cs : List Char) : Option Nat :=
  let ds :=
    match cs with
    | '+' :: r => r
    | cs       => cs
  if ds ≠ [] ∧ ds.all Char.isDigit then
    some (ds.foldl (fun n c => n * 10 + (c.toNat - '0'.toNat)) 0)
  else none

/-- The verbosity that a text names, in any case, or numbers. -/
def verbosity? (cs : List Char) : Option Verbosity :=
  match (numberOf? cs).filter (· ≤ everything) with
  | some n => some n
  | none   =>
      (verbosityNames.find? (·.1 = String.ofList (cs.map Char.toLower))).map Prod.snd

/-- Whether a directive may start with `c`; nothing is known of what lies beyond ASCII. -/
def startsDirective (c : Char) : Bool :=
  c == '-' || c == ':' || c == '_' || c.isAlphanum || 0x80 ≤ c.toNat

/-- The part of a directive that is being read, and where it starts. -/
inductive Place where
  | start
  | front (begun : Nat)
  | span (begun : Nat)
  | field (begun : Nat)
  | fields
  | target
  | verbosity (begun : Nat)
  deriving DecidableEq

/-- The characters from one place to another. -/
def slice (whole : List Char) (a b : Nat) : List Char := (whole.drop a).take (b - a)

/-- The directive with one more field; a value behind an equals sign is a matter of spans. -/
def Directive.addField (d : Directive) (field : List Char) : Except DirectiveFault Directive :=
  if field = [] then .error .badForm
  else
    .ok { d with
      fields    := d.fields ++ [String.ofList (field.takeWhile (· ≠ '='))]
      isOnSpans := d.isOnSpans || field.contains '=' }

/-- What a character at position `i` comes to. -/
def step (whole : List Char) (d : Directive) (i : Nat) (c : Char) :
    Place → Except DirectiveFault (Directive × Place)
  | .start         =>
      if c = '[' then .ok (d, .span (i + 1))
      else if startsDirective c then .ok (d, .front i)
      else .error .badForm
  | .front a       =>
      let named := { d with target := some (String.ofList (slice whole a i)) }
      if c = '=' then .ok (named, .verbosity (i + 1))
      else if c = '[' then .ok (named, .span (i + 1))
      else .ok (d, .front a)
  | .span a        =>
      if c = ']' then .ok ({ d with isOnSpans := true }, .target)
      else if c = '\x7b' then
        .ok ({ d with isOnSpans := d.isOnSpans || slice whole a i ≠ [] }, .field (i + 1))
      else .ok (d, .span a)
  | .field a       =>
      if c = '\x7d' then do return (← d.addField (slice whole a i), .fields)
      else if c = ',' then do return (← d.addField (slice whole a i), .field (i + 1))
      else .ok (d, .field a)
  | .fields        => if c = ']' then .ok (d, .target) else .error .badForm
  | .target        => if c = '=' then .ok (d, .verbosity (i + 1)) else .error .badForm
  | .verbosity a   => .ok (d, .verbosity a)

/-- The directive at the end of the text. -/
def finish (whole : List Char) (d : Directive) : Place → Except DirectiveFault Directive
  | .front a     =>
      -- A single word is a verbosity if it can be one, else a target.
      match verbosity? (whole.drop a) with
      | some v => .ok { d with verbosity := v }
      | none   => .ok { d with target := some (String.ofList (whole.drop a)) }
  | .verbosity a =>
      if whole.drop a = [] then .ok d
      else
        match verbosity? (whole.drop a) with
        | some v => .ok { d with verbosity := v }
        | none   => .error .badVerbosity
  | .target      => .ok d
  | _            => .error .badForm

/-- Reads on at position `i`. -/
def readFrom (whole : List Char) (d : Directive) (i : Nat) (p : Place) :
    List Char → Except DirectiveFault Directive
  | []     => finish whole d p
  | c :: r => do
      let (d, p) ← step whole d i c p
      readFrom whole d (i + 1) p r

/-- The ranges of blanks. -/
def blanks : List (Nat × Nat) :=
  [(0x9, 0xD), (0x20, 0x20), (0x85, 0x85), (0xA0, 0xA0), (0x1680, 0x1680), (0x2000, 0x200A),
   (0x2028, 0x2029), (0x202F, 0x202F), (0x205F, 0x205F), (0x3000, 0x3000)]

/-- Whether a character is a blank. -/
def isBlank (c : Char) : Bool := blanks.any fun r => r.1 ≤ c.toNat && c.toNat ≤ r.2

/-- The text without the blanks around it. -/
def trimmed (cs : List Char) : List Char :=
  ((cs.dropWhile isBlank).reverse.dropWhile isBlank).reverse

/-- The directive of a text.  Blanks around it are not read, but count among its positions. -/
def Directive.ofText (s : String) : Except DirectiveFault Directive :=
  readFrom s.toList ⟨none, [], false, everything⟩ 0 .start (trimmed s.toList)

/-! ### Filters -/

/-- Directives, the more specific ones first. -/
abbrev Filter := List Directive

namespace Filter

/-- The directive of a filter that has none: errors pass. -/
def fallback : Directive := ⟨none, [], false, Level.error.rank⟩

/-- Whether `d` is at least as specific as `e`. -/
def precedes (d e : Directive) : Bool :=
  let length (d : Directive) : Nat := (d.target.map fun t => t.utf8ByteSize + 1).getD 0
  if length d ≠ length e then length e < length d else e.fields.length ≤ d.fields.length

/-- The filter of some directives; of two that care about the same, the later one counts. -/
def ofDirectives (ds : List Directive) : Filter :=
  let onEvents := ds.filter fun d => !d.isOnSpans
  if ds.isEmpty then [fallback]
  else
    (onEvents.foldl (fun kept d =>
      kept.filter (fun e => (e.target, e.fields) ≠ (d.target, d.fields)) ++ [d]) []).mergeSort
        precedes

/-- The texts of the directives in a text. -/
def parts (s : String) : List String := (s.splitOn ",").filter (· ≠ "")

/-- The filter of a text, if all its directives are well-formed. -/
def ofText? (s : String) : Option Filter :=
  match (parts s).mapM Directive.ofText with
  | .ok ds   => some (ofDirectives ds)
  | .error _ => none

/-- The filter of the well-formed directives of a text, and a line on each of the others. -/
def ofTextLossy (s : String) : Filter × List String :=
  let read := (parts s).map fun p => (p, Directive.ofText p)
  (ofDirectives (read.filterMap fun x => x.2.toOption),
    read.filterMap fun x =>
      match x.2 with
      | .ok _    => none
      | .error f => some ("ignoring `" ++ x.1 ++ "`: " ++ f.message))

/-- Whether a directive cares about an event. -/
def caresAbout (d : Directive) (e : Event) : Bool :=
  (d.target.all fun t => t.toList.isPrefixOf e.source.name.toList) &&
    d.fields.all fun f => f = "message" || e.fields.any (·.1 = f)

/-- Whether an event passes. -/
def allows (f : Filter) (e : Event) : Bool :=
  match f.find? (caresAbout · e) with
  | some d => e.level.rank ≤ d.verbosity
  | none   => false

end Filter

end RecordingIndex.Log
