/-!
# Toml — what is wrong with a text
-/

namespace RecordingIndex.Toml

/-- The reasons for which a text is no document.  The table of a repeated key is left out where it
is not told. -/
inductive Fault where
  | badLine
  | badKey
  | badText
  | badNumber
  | badDate
  | badValue
  | badList
  | badRecord
  | noTable (key : String)
  | repeatedKey (shown : String) (table : Option (List String))
  | tooDeep
  deriving DecidableEq

/-- The wording of a reason. -/
def Fault.message : Fault → String
  | .badLine                   => "expected newline"
  | .badKey                    => "invalid key"
  | .badText                   => "invalid string"
  | .badNumber                 => "invalid number"
  | .badDate                   => "invalid date-time"
  | .badValue                  => "expected a value"
  | .badList                   => "invalid array"
  | .badRecord                 => "invalid inline table"
  | .noTable key               => "dotted key `" ++ key ++ "` attempted to extend non-table type"
  | .repeatedKey k none        => "duplicate key `" ++ k ++ "`"
  | .repeatedKey k (some [])   => "duplicate key `" ++ k ++ "` in document root"
  | .repeatedKey k (some path) =>
      "duplicate key `" ++ k ++ "` in table `" ++ ".".intercalate path ++ "`"
  | .tooDeep                   => "recursion limit exceeded"

end RecordingIndex.Toml
