/-!
# Yaml — gaps between the words of a text

Words of a plain or quoted text are divided by gaps: blanks in a line, or the end of a line with the
empty lines after it.  `Gap.text` folds a gap into what the text holds in its place.
-/

namespace RecordingIndex.Yaml

/-- What stands between two words: blanks, or line ends, of which the first may be escaped. -/
inductive Gap where
  | blanks (text : List Char)
  | lines (first more : List Char)
  deriving DecidableEq

namespace Gap

/-- No gap. -/
def none : Gap := .blanks []

/-- Whether a gap spans lines. -/
def spansLines : Gap → Bool
  | .blanks _  => false
  | .lines _ _ => true

/-- The gap with one more blank; blanks at line ends count for nothing. -/
def addBlank (c : Char) : Gap → Gap
  | .blanks t  => .blanks (t ++ [c])
  | .lines f m => .lines f m

/-- The gap with one more line end; blanks before the first count for nothing. -/
def addBreak (c : Char) : Gap → Gap
  | .blanks _  => .lines [c] []
  | .lines f m => .lines f (m ++ [c])

/-- What a text holds in place of a gap: a single line feed becomes a space, of several the first
is lost. -/
def text : Gap → List Char
  | .blanks t         => t
  | .lines ['\n'] []  => [' ']
  | .lines ['\n'] m   => m
  | .lines f m        => f ++ m

end Gap

end RecordingIndex.Yaml
