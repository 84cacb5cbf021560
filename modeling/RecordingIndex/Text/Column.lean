/-!
# Text — columns

Entries of a column are filled up with blanks to its width; longer ones are not cut.
-/

namespace RecordingIndex.Text

/-- The blanks that `s` lacks to a width. -/
def filling (width : Nat) (s : String) : String :=
  String.ofList (List.replicate (width - s.length) ' ')

/-- `s` at the left of a column. -/
def left (width : Nat) (s : String) : String := s ++ filling width s

/-- `s` at the right of a column. -/
def right (width : Nat) (s : String) : String := filling width s ++ s

/-- Lines of output. -/
def lines (ls : List String) : String := String.join (ls.map (· ++ "\n"))

end RecordingIndex.Text
