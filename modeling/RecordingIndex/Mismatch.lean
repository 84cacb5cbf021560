import RecordingIndex.Decimal.Shortest
import RecordingIndex.Text.Quoted

/-!
# Mismatch — values that are not what was wanted

A well-formed document may still hold a value of the wrong kind, or lack a field, or give one twice.
The wording is the same for every format of documents but for the word for nothing and the way
floating-point numbers are written (`Wording`).
-/

namespace RecordingIndex

/-- What was found in place of what was wanted. -/
inductive Unwanted where
  | nothing
  | truth (b : Bool)
  | integer (n : Int)
  | wideInteger (n : Int) (signed : Bool)
  | float (x : Binary64)
  | text (s : String)
  | sequence
  | mapping
  deriving DecidableEq

/-- Why a value is not what was wanted. -/
inductive Mismatch where
  | wrongType (found : Unwanted) (wanted : String)
  | wrongValue (found : Unwanted) (wanted : String)
  | repeatedField (name : String)
  | missingField (name : String)
  deriving DecidableEq

/-- What the wording of a mismatch leaves to the format. -/
structure Wording where
  nothing : String
  float   : Binary64.Format

/-- The words for what was found. -/
def Unwanted.words (w : Wording) : Unwanted → String
  | .nothing              => w.nothing
  | .truth b              => "boolean `" ++ (if b then "true" else "false") ++ "`"
  | .integer n            => "integer `" ++ toString n ++ "`"
  | .wideInteger n signed =>
      "integer `" ++ toString n ++ "` as " ++ (if signed then "i128" else "u128")
  | .float x              => "floating point `" ++ w.float.text x ++ "`"
  | .text s               => "string " ++ Text.quote s
  | .sequence             => "sequence"
  | .mapping              => "map"

/-- The wording of a mismatch. -/
def Mismatch.message (w : Wording) : Mismatch → String
  | .wrongType found wanted  => "invalid type: " ++ found.words w ++ ", expected " ++ wanted
  | .wrongValue found wanted => "invalid value: " ++ found.words w ++ ", expected " ++ wanted
  | .repeatedField name      => "duplicate field `" ++ name ++ "`"
  | .missingField name       => "missing field `" ++ name ++ "`"

/-- The value of a field, or the complaint that it is missing. -/
def Mismatch.require {α : Type} (name : String) : Option α → Except Mismatch α
  | some a => .ok a
  | none   => .error (.missingField name)

end RecordingIndex
