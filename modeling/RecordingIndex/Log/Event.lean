/-!
# Log — events

An event is a message about what the program does, with named fields, at one of four levels.  The
part of the program that it comes from is its source.
-/

namespace RecordingIndex

/-- How much an event matters, from the most. -/
inductive Level where
  | error
  | warn
  | info
  | debug
  deriving DecidableEq

namespace Level

/-- The levels, counted from the gravest. -/
def rank : Level → Nat
  | .error => 1
  | .warn  => 2
  | .info  => 3
  | .debug => 4

/-- The name of a level. -/
def name : Level → String
  | .error => "ERROR"
  | .warn  => "WARN"
  | .info  => "INFO"
  | .debug => "DEBUG"

end Level

/-- The parts of the program that report events. -/
inductive Source where
  | storage
  | reindex
  | commandLine
  deriving DecidableEq

/-- The name of a part, by which log filters select it. -/
def Source.name : Source → String
  | .storage     => "bagdex::storage"
  | .reindex     => "bagdex::reindex"
  | .commandLine => "bagdex::cli"

/-- The value of a field: a number, a text that stands as it is, or a text that stands in quotes. -/
inductive FieldValue where
  | count (n : Nat)
  | shown (text : String)
  | quoted (text : String)
  deriving DecidableEq

/-- A message about what the program does. -/
structure Event where
  level   : Level
  source  : Source
  message : String
  fields  : List (String × FieldValue)
  deriving DecidableEq

end RecordingIndex
