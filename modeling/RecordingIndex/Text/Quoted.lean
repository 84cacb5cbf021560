import RecordingIndex.Text.Shape

/-!
# Text — quoted text

A text between double quotes, for messages: a quote and a backslash carry a backslash, the four
controls with a letter of their own are written by it, and every other character without a shape
is written by its code point.
-/

namespace RecordingIndex.Text

/-- `c` as it stands between double quotes. -/
def escape (c : Char) : List Char :=
  match c with
  | '\x00' => ['\\', '0']
  | '\t'   => ['\\', 't']
  | '\r'   => ['\\', 'r']
  | '\n'   => ['\\', 'n']
  | '"'    => ['\\', '"']
  | '\\'   => ['\\', '\\']
  | c      =>
      if hasShape c then [c]
      else ['\\', 'u', '\x7b'] ++ Nat.toDigits 16 c.toNat ++ ['\x7d']

/-- `s` between double quotes. -/
def quote (s : String) : String :=
  String.ofList ('"' :: s.toList.flatMap escape ++ ['"'])

end RecordingIndex.Text
