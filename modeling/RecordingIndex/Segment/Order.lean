import RecordingIndex.Segment.Basic

/-!
# Segment — the order of a recording

`Segment.order` puts files into the order of their numbers.  It reads the paths from the left and
stops at the first whose name has no number, or whose number an earlier one has.
-/

namespace RecordingIndex.Segment

/-- The complaint that two files have one number, the lesser file name first. -/
def duplicate (id : UInt64) (first second : String) : Failure :=
  if second < first then .duplicateSegmentId id second first
  else .duplicateSegmentId id first second

/-- The segments at the paths, in the order given; `seen` are those before them. -/
def number (seen : List Segment) : List Path → Except Failure (List Segment)
  | []      => .ok seen.reverse
  | p :: ps =>
      match idOf p with
      | .error e => .error e
      | .ok id   =>
          match seen.find? (·.id = id) with
          | some s => .error (duplicate id s.fileName p.fileNameLossy)
          | none   => number (⟨id, p⟩ :: seen) ps

/-- The segments at the paths, by ascending number. -/
def order (paths : List Path) : Except Failure (List Segment) :=
  (number [] paths).map fun ss => ss.mergeSort fun s t => s.id ≤ t.id

end RecordingIndex.Segment
