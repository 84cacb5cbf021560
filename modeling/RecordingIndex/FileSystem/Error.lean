/-!
# FileSystem — why an operation fails
-/

namespace RecordingIndex

/-- The reasons for which a file operation fails. -/
inductive FileError where
  | notFound
  | accessDenied
  | exists
  | notADirectory
  | isADirectory
  | invalid
  | nameTooLong
  | notEmpty
  | tooManyLinks
  | nulInPath
  | notText
  | other (text : String)
  deriving DecidableEq

/-- The text of a reason; those that the system numbers carry their number. -/
def FileError.message : FileError → String
  | .notFound      => "No such file or directory (os error 2)"
  | .accessDenied  => "Permission denied (os error 13)"
  | .exists        => "File exists (os error 17)"
  | .notADirectory => "Not a directory (os error 20)"
  | .isADirectory  => "Is a directory (os error 21)"
  | .invalid       => "Invalid argument (os error 22)"
  | .nameTooLong   => "File name too long (os error 36)"
  | .notEmpty      => "Directory not empty (os error 39)"
  | .tooManyLinks  => "Too many levels of symbolic links (os error 40)"
  | .nulInPath     => "file name contained an unexpected NUL byte"
  | .notText       => "stream did not contain valid UTF-8"
  | .other text    => text

end RecordingIndex
