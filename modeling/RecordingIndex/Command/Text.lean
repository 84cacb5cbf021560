import RecordingIndex.Decimal.Binary64
import RecordingIndex.Metadata
import RecordingIndex.Segment.Basic
import RecordingIndex.Text.Column

/-!
# Command — what commands print

Segments and topics stand in columns.  Sizes above a mebibyte or a kibibyte are told in those, with
two places, a half going to the even neighbour.
-/

namespace RecordingIndex.Command

open Text

/-! ### Sizes -/

/-- The quotient of a size and a unit, with two places.  The size counts as it is rounded to a
binary number of 64 bits. -/
def inUnit (size unit : Nat) : String :=
  let (n, d) := (Binary64.nearest false size 1).quotient
  let hundredths := Binary64.roundDiv (n * 100) (d * unit)
  let places := toString (hundredths % 100)
  toString (hundredths / 100) ++ "." ++ (if places.length < 2 then "0" else "") ++ places

/-- A kibibyte. -/
def kibi : Nat := 1024

/-- A mebibyte. -/
def mebi : Nat := 1024 * 1024

/-- A size in bytes, as it is told. -/
def sizeText (size : Nat) : String :=
  if mebi < size then inUnit size mebi ++ " MB"
  else if kibi < size then inUnit size kibi ++ " KB"
  else toString size ++ " B"

/-! ### Tables -/

/-- A row of the list of segments. -/
def segmentRow (id file size : String) : String :=
  left 10 id ++ " " ++ left 40 file ++ " " ++ left 15 size

/-- What the sizes of segments sum up to. -/
def sumSizes (sized : List (Segment × UInt64)) : UInt64 :=
  (sized.map Prod.snd).foldl saturatingAdd 0

/-- The list of segments with their sizes, and the sum of these. -/
def segmentTable (dir : Path) (storageId : String) (sized : List (Segment × UInt64)) : String :=
  lines
    (["Segments in: " ++ dir.display ++ " (" ++ storageId ++ ")",
      segmentRow "ID" "File" "Size",
      String.ofList (List.replicate 67 '-')] ++
     sized.map (fun (s, size) =>
       segmentRow (toString s.id.toNat) s.fileName (sizeText size.toNat)) ++
     [toString sized.length ++ " segment(s), " ++ sizeText (sumSizes sized).toNat])

/-- The lines on a description. -/
def summary (m : Metadata) : List String :=
  ["  Storage: " ++ m.storageIdentifier,
   "  Segments: " ++ toString m.relativePaths.length] ++
  m.relativePaths.map ("    " ++ ·) ++
  ["  Size: " ++ sizeText m.bagSize.toNat,
   "  Start: " ++ toString m.startingTime.toNat ++ " ns",
   "  Duration: " ++ toString m.duration.toNat ++ " ns",
   "  Messages: " ++ toString m.messageCount.toNat,
   "  Topics: " ++ toString m.topicCount] ++
  if m.compressionFormat = "" then []
  else ["  Compression: " ++ m.compressionFormat ++ " (" ++ m.compressionMode ++ ")"]

/-- The line on a topic. -/
def topicRow (t : RecordedTopic) : String :=
  "    " ++ left 30 t.topic.name ++ " " ++ left 35 t.topic.typeName ++ " " ++
    right 10 (toString t.messageCount.toNat) ++ " msgs (" ++ t.topic.serializationFormat ++ ")"

end RecordingIndex.Command
