/-!
# Yaml — what is wrong with a text
-/

namespace RecordingIndex.Yaml

/-- The reasons for which a text is no document. -/
inductive Fault where
  | controlCharacter
  | strayCharacter
  | missingColon
  | misplacedEntry
  | misplacedKey
  | misplacedValue
  | tabIndentation
  | colonInFlow
  | unclosedQuote
  | markInQuotes
  | badEscape
  | badBlockHeading
  | badName
  | badTag
  | badDirective
  | repeatedDirective
  | unsupportedVersion
  | unknownHandle
  | missingDocumentStart
  | missingContent
  | missingKey
  | missingDash
  | missingSeparator
  | unknownAnchor
  deriving DecidableEq

/-- The wording of a reason. -/
def Fault.message : Fault → String
  | .controlCharacter     => "control characters are not allowed"
  | .strayCharacter       => "found character that cannot start any token"
  | .missingColon         => "could not find expected ':'"
  | .misplacedEntry       => "block sequence entries are not allowed in this context"
  | .misplacedKey         => "mapping keys are not allowed in this context"
  | .misplacedValue       => "mapping values are not allowed in this context"
  | .tabIndentation       => "found a tab character where an indentation space is expected"
  | .colonInFlow          => "found unexpected ':'"
  | .unclosedQuote        => "found unexpected end of stream"
  | .markInQuotes         => "found unexpected document indicator"
  | .badEscape            => "found unknown escape character"
  | .badBlockHeading      => "did not find expected comment or line break"
  | .badName              => "did not find expected alphabetic or numeric character"
  | .badTag               => "did not find expected tag"
  | .badDirective         => "found malformed directive"
  | .repeatedDirective    => "found duplicate directive"
  | .unsupportedVersion   => "found incompatible YAML document"
  | .unknownHandle        => "found undefined tag handle"
  | .missingDocumentStart => "did not find expected <document start>"
  | .missingContent       => "did not find expected node content"
  | .missingKey           => "did not find expected key"
  | .missingDash          => "did not find expected '-' indicator"
  | .missingSeparator     => "did not find expected ',' or closing bracket"
  | .unknownAnchor        => "unknown anchor"

end RecordingIndex.Yaml
