import RecordingIndex.Failure

/-!
# Segment — files with a number in their name

A segment file is named `stem_digits.extension`.  `Segment.idOf` reads the number; it accepts a path
iff its file name has a stem of UTF-8 that ends in an underscore, not its first character, followed
by one or more digits whose value is below 2^64.
-/

namespace RecordingIndex

/-- A segment file and the number in its name. -/
structure Segment where
  id   : UInt64
  path : Path
  deriving DecidableEq

namespace Segment

/-- The file name of a segment, as text. -/
def fileName (s : Segment) : String := s.path.fileNameLossy

/-- Whether two segments have one number and one path, component by component. -/
def same (s t : Segment) : Bool := s.id == t.id && s.path.same t.path

/-- The byte before the number. -/
def underscore : UInt8 := 0x5F

/-- The value of a byte as a digit. -/
def digit? (b : UInt8) : Option Nat :=
  if 0x30 ≤ b ∧ b ≤ 0x39 then some (b.toNat - 0x30) else none

/-- The value of a string of digits. -/
def number? (ds : Bytes) : Option Nat :=
  if ds = [] then none
  else ds.foldl (fun acc b => do let n ← acc; let d ← digit? b; pure (n * 10 + d)) (some 0)

/-- A stem divided at its last underscore. -/
def divideStem? (stem : Bytes) : Option (Bytes × Bytes) :=
  match (Path.split underscore stem).reverse with
  | digits :: r@(_ :: _) => some ([underscore].intercalate r.reverse, digits)
  | _                    => none

/-- The number in the name of a file. -/
def idOf? (p : Path) : Option UInt64 := do
  let stem ← p.stem?
  let _ ← p.extension?
  let _ ← Utf8.decode? stem
  let (front, digits) ← divideStem? stem
  let n ← number? digits
  if front ≠ [] ∧ n < UInt64.size then pure (UInt64.ofNat n) else none

/-- The number in the name of a file, or the complaint about the name. -/
def idOf (p : Path) : Except Failure UInt64 :=
  match idOf? p with
  | some id => .ok id
  | none    => .error (.malformedSegmentName p.fileNameLossy)

end Segment

end RecordingIndex
