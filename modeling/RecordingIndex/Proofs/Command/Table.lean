import Mathlib.Data.List.Forall2
import RecordingIndex.Command.Text

/-!
# Proofs — Command — the lines of the list of segments

Under a heading of three lines the list has one line for each segment, with its number, its file
name and its size in columns, and then a line with the number of segments and the sum of their sizes
(`isTable_segmentTable`).
-/

namespace RecordingIndex.Command

open Text

/-! ### Columns -/

/-- The field is the text with blanks behind it, as wide as the column or as the text needs. -/
structure IsField (width : Nat) (text field : String) : Prop where
  blanks : ∃ n, field = text ++ String.ofList (List.replicate n ' ')
  length : field.length = max width text.length

theorem isField_left (width : Nat) (text : String) : IsField width text (left width text) where
  blanks := ⟨width - text.length, rfl⟩
  length := by
    rw [left, filling, String.length_append, String.length_ofList, List.length_replicate]
    omega

/-- The line has a number, a file and a size in its columns. -/
def IsLine (id file size line : String) : Prop :=
  ∃ first second third, IsField 10 id first ∧ IsField 40 file second ∧ IsField 15 size third ∧
    line = first ++ " " ++ second ++ " " ++ third

theorem isLine_segmentRow (id file size : String) : IsLine id file size (segmentRow id file size) :=
  ⟨_, _, _, isField_left 10 id, isField_left 40 file, isField_left 15 size, rfl⟩

/-! ### The list -/

/-- The line tells of a segment and its size. -/
def IsRow (row : Segment × UInt64) (line : String) : Prop :=
  IsLine (toString row.1.id.toNat) row.1.fileName (sizeText row.2.toNat) line

/-- The text lists the segments of `dir` and their sizes, line by line in order, and sums them up in
its last line. -/
def IsTable (dir : Path) (storageId : String) (rows : List (Segment × UInt64))
    (text : String) : Prop :=
  ∃ columns rowLines, IsLine "ID" "File" "Size" columns ∧ List.Forall₂ IsRow rows rowLines ∧
    text = lines
      (["Segments in: " ++ dir.display ++ " (" ++ storageId ++ ")", columns,
          String.ofList (List.replicate 67 '-')] ++
        rowLines ++
        [toString rows.length ++ " segment(s), " ++ sizeText (sumSizes rows).toNat])

theorem forall₂_isRow (rows : List (Segment × UInt64)) :
    List.Forall₂ IsRow rows
      (rows.map fun row =>
        segmentRow (toString row.1.id.toNat) row.1.fileName (sizeText row.2.toNat)) := by
  induction rows with
  | nil => exact .nil
  | cons row rows ih => exact .cons (isLine_segmentRow _ _ _) ih

/-- **The list of segments** is a table of them. -/
theorem isTable_segmentTable (dir : Path) (storageId : String) (rows : List (Segment × UInt64)) :
    IsTable dir storageId rows (segmentTable dir storageId rows) :=
  ⟨_, _, isLine_segmentRow _ _ _, forall₂_isRow rows, rfl⟩

end RecordingIndex.Command
