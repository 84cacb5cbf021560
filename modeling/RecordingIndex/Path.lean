import RecordingIndex.Text.Utf8

/-!
# Path — paths as bytes

A path is a byte string that slashes divide into parts.  Two readings of it are used:

* its *components* (`Path.components`), where repeated slashes and inner dots count for nothing;
  two paths that agree on them are the same path (`Path.same`), and the file name, the stem and the
  extension are read off the last one;
* its *steps* (`Path.steps`), what a walk through directories does part by part, where a slash at
  the end asks for a directory.
-/

namespace RecordingIndex

/-- A path: any bytes, in no particular encoding. -/
structure Path where
  bytes : Bytes
  deriving DecidableEq

namespace Path

/-- The byte between two parts. -/
def slash : UInt8 := 0x2F

/-- The byte before an extension. -/
def dot : UInt8 := 0x2E

/-- The path that a text spells. -/
def ofString (s : String) : Path := ⟨Utf8.ofString s⟩

/-- The path as text, ill-formed stretches replaced. -/
def display (p : Path) : String := Utf8.toStringLossy p.bytes

/-- The stretches between the bytes `sep`, empty ones included. -/
def split (sep : UInt8) : Bytes → List Bytes
  | []     => [[]]
  | b :: r =>
      if b = sep then [] :: split sep r
      else
        match split sep r with
        | []      => [[b]]
        | q :: qs => (b :: q) :: qs

/-- Whether the path starts at the root. -/
def isAbsolute (p : Path) : Bool := p.bytes.head? == some slash

/-! ### Components -/

/-- A component of a path. -/
inductive Component where
  | root
  | current
  | parent
  | name (bytes : Bytes)
  deriving DecidableEq

/-- The component that a part stands for; an empty part and a dot stand for none. -/
def Component.ofPart? (part : Bytes) : Option Component :=
  if part = [] ∨ part = [dot] then none
  else if part = [dot, dot] then some .parent
  else some (.name part)

/-- The components of a path.  A dot counts only as the first part of a relative path. -/
def components (p : Path) : List Component :=
  let parts := split slash p.bytes
  let body := parts.filterMap Component.ofPart?
  if p.isAbsolute then .root :: body
  else if parts.head? = some [dot] then .current :: body
  else body

/-- Whether two paths agree component by component. -/
def same (p q : Path) : Bool := p.components == q.components

/-- The last component, if it is a name. -/
def fileName? (p : Path) : Option Bytes :=
  match p.components.getLast? with
  | some (.name n) => some n
  | _              => none

/-- The file name as text, empty if there is none. -/
def fileNameLossy (p : Path) : String := Utf8.toStringLossy (p.fileName?.getD [])

/-! ### Stem and extension -/

/-- A name divided at its last dot, unless that dot is its first byte or there is none. -/
def divide (name : Bytes) : Bytes × Option Bytes :=
  match (split dot name).reverse with
  | ext :: r@(_ :: _) =>
      -- The part behind the last dot comes first in the reversed list.
      let stem := List.intercalate [dot] r.reverse
      if stem = [] then (name, none) else (stem, some ext)
  | _ => (name, none)

/-- The file name before its extension. -/
def stem? (p : Path) : Option Bytes := p.fileName?.map fun n => (divide n).1

/-- The file name after its last dot. -/
def extension? (p : Path) : Option Bytes := p.fileName?.bind fun n => (divide n).2

/-- What is left of a reversed path once the slashes and dots after its file name are gone. -/
def dropTail : Bytes → Bytes
  | []          => []
  | [b]         => if b = slash then [] else [b]
  | b :: c :: r =>
      if b = slash then dropTail (c :: r)
      else if b = dot ∧ c = slash then dropTail (c :: r)
      else b :: c :: r

/-- The path with `ext` in place of its extension; a path without a file name stays as it is. -/
def withExtension (p : Path) (ext : Bytes) : Path :=
  match p.fileName? with
  | none   => p
  | some n =>
      -- Slashes and dots behind the file name are not part of it.
      let front := ((dropTail p.bytes.reverse).drop n.length).reverse
      let tail := if ext = [] then [] else dot :: ext
      ⟨front ++ (divide n).1 ++ tail⟩

/-- `q` taken from `p`: an absolute `q` stands alone. -/
def join (p q : Path) : Path :=
  if q.isAbsolute then q
  else if p.bytes = [] ∨ p.bytes.getLast? = some slash then ⟨p.bytes ++ q.bytes⟩
  else ⟨p.bytes ++ slash :: q.bytes⟩

/-- The entry `name` of the directory at `p`. -/
def child (p : Path) (name : Bytes) : Path := p.join ⟨name⟩

/-! ### Steps -/

/-- One step of a walk: into an entry, to the parent, nowhere, or nowhere from what must be a
directory because a slash ends the path. -/
inductive Step where
  | enter (name : Bytes)
  | up
  | stay
  | close
  deriving DecidableEq

/-- The step that a part asks for; an empty part asks for none. -/
def Step.ofPart? (part : Bytes) : Option Step :=
  if part = [] then none
  else if part = [dot] then some .stay
  else if part = [dot, dot] then some .up
  else some (.enter part)

/-- The steps of a path. -/
def steps (p : Path) : List Step :=
  (split slash p.bytes).filterMap Step.ofPart? ++
    if p.bytes.getLast? = some slash then [.close] else []

end Path

end RecordingIndex
