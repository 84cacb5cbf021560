/-!
# Yaml — tokens
-/

namespace RecordingIndex.Yaml

/-- How a text was written, as far as its meaning depends on it. -/
inductive Spelling where
  | plain
  | literal
  | quoted
  deriving DecidableEq

/-- The smallest parts of a document.  The starts and the end of block collections are read off the
indentation. -/
inductive Token where
  | streamEnd
  | versionDirective (major minor : Nat)
  | tagDirective (handle stem : List Char)
  | documentStart
  | documentEnd
  | blockSequenceStart
  | blockMappingStart
  | blockEnd
  | flowSequenceStart
  | flowSequenceEnd
  | flowMappingStart
  | flowMappingEnd
  | blockEntry
  | flowEntry
  | key
  | value
  | alias (name : List Char)
  | anchor (name : List Char)
  | tag (handle suffix : List Char)
  | scalar (text : List Char) (spelling : Spelling)
  deriving DecidableEq

end RecordingIndex.Yaml
