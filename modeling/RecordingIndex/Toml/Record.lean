import RecordingIndex.Mismatch
import RecordingIndex.Toml.Document

/-!
# Toml — records of texts

The whole document is read before any of its values is looked at.  Then the entries are looked at in
the order in which they stand in the table, and the first one that should be a text and is none is
complained about.
-/

namespace RecordingIndex.Toml

/-- Why a document is not what was wanted. -/
inductive Complaint where
  | malformed (f : Fault)
  | mismatch (what : Mismatch)
  deriving DecidableEq

/-- Numbers are worded positionally; nothing that is read is nothing. -/
def wording : Wording := ⟨"unit value", Binary64.plainFormat⟩

/-- The wording of a complaint, as a line. -/
def Complaint.message : Complaint → String
  | .malformed f => f.message ++ "\n"
  | .mismatch m  => m.message wording ++ "\n"

/-- What an item is, in complaints. -/
def Item.unwanted : Item → Unwanted
  | .text s                            => .text s
  | .integer n                         => .integer n
  | .float x                           => .float x
  | .truth b                           => .truth b
  | .list _ | .tables _                => .sequence
  | .date | .record _ _ | .table _ _   => .mapping

/-- The text that an item is. -/
def Item.asText : Item → Except Complaint String
  | .text s => .ok s
  | x       => .error (.mismatch (.wrongType x.unwanted "a string"))

/-- The texts of the named entries. -/
def texts (names : List String) : List (String × Item) → Except Complaint (List (String × String))
  | []           => .ok []
  | (k, x) :: es =>
      if names.contains k then do
        let s ← x.asText
        return (k, s) :: (← texts names es)
      else texts names es

/-- The named entries of a document, each of which is a text. -/
def record (names : List String) (text : String) : Except Complaint (List (String × String)) :=
  match Table.ofText text.toList with
  | .error f => .error (.malformed f)
  | .ok t    => texts names t.entries

end RecordingIndex.Toml
