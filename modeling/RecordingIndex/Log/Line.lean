import RecordingIndex.Log.Event
import RecordingIndex.Text.Column
import RecordingIndex.Text.Quoted

/-!
# Log — lines

An event is a line: its level, possibly its source, its message, and its fields.
-/

namespace RecordingIndex

/-- The text of the value of a field. -/
def FieldValue.text : FieldValue → String
  | .count n  => toString n
  | .shown s  => s
  | .quoted s => Text.quote s

/-- The line of an event. -/
def Event.line (withSource : Bool) (e : Event) : String :=
  " " ++ Text.right 5 e.level.name ++ " " ++ (if withSource then e.source.name ++ ": " else "") ++
    e.message ++ String.join (e.fields.map fun (name, v) => " " ++ name ++ "=" ++ v.text)

end RecordingIndex
