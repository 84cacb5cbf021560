/-!
# Text — UTF-8

`pieces` reads a byte string as a sequence of scalars and of ill-formed stretches, each stretch as
long as it can be while it still begins some well-formed sequence.  Everything else is said through
it:

* `encode` writes scalars as bytes;
* `decode?` accepts the byte strings without an ill-formed stretch;
* `decodeLossy` puts the replacement character for each stretch.
-/

namespace RecordingIndex

/-- Uninterpreted bytes: the names of a file system and the contents of its files. -/
abbrev Bytes := List UInt8

namespace Utf8

/-- The bytes of a text. -/
def encode (s : List Char) : Bytes := s.flatMap String.utf8EncodeChar

/-- A sequence that has begun: `needed` more bytes, the next of them between `low` and `high`, and
the bits read so far. -/
structure Pending where
  needed : Nat
  low    : UInt8
  high   : UInt8
  bits   : Nat
  deriving DecidableEq, Repr

/-- What a byte outside a sequence begins: a scalar of one byte, a longer sequence, or nothing.
The bounds on the second byte exclude overlong forms, surrogates and values above the last
scalar. -/
inductive Lead where
  | scalar (c : Char)
  | opens (p : Pending)
  | illFormed
  deriving DecidableEq, Repr

/-- The role of `b` at the start of a sequence. -/
def lead (b : UInt8) : Lead :=
  if b < 0x80 then .scalar (Char.ofNat b.toNat)
  else if b < 0xC2 then .illFormed
  else if b < 0xE0 then .opens ⟨1, 0x80, 0xBF, b.toNat - 0xC0⟩
  else if b = 0xE0 then .opens ⟨2, 0xA0, 0xBF, 0⟩
  else if b = 0xED then .opens ⟨2, 0x80, 0x9F, 0xD⟩
  else if b < 0xF0 then .opens ⟨2, 0x80, 0xBF, b.toNat - 0xE0⟩
  else if b = 0xF0 then .opens ⟨3, 0x90, 0xBF, 0⟩
  else if b < 0xF4 then .opens ⟨3, 0x80, 0xBF, b.toNat - 0xF0⟩
  else if b = 0xF4 then .opens ⟨3, 0x80, 0x8F, 4⟩
  else .illFormed

/-- The scalars of a byte string, `none` standing for an ill-formed stretch. -/
def piecesFrom : Option Pending → Bytes → List (Option Char)
  | none,   []     => []
  | some _, []     => [none]
  | none,   b :: r =>
      match lead b with
      | .scalar c  => some c :: piecesFrom none r
      | .opens p   => piecesFrom (some p) r
      | .illFormed => none :: piecesFrom none r
  | some p, b :: r =>
      if p.low ≤ b ∧ b ≤ p.high then
        let bits := p.bits * 64 + (b.toNat - 0x80)
        if p.needed ≤ 1 then some (Char.ofNat bits) :: piecesFrom none r
        else piecesFrom (some ⟨p.needed - 1, 0x80, 0xBF, bits⟩) r
      else
        match lead b with
        | .scalar c  => none :: some c :: piecesFrom none r
        | .opens q   => none :: piecesFrom (some q) r
        | .illFormed => none :: none :: piecesFrom none r

/-- The scalars and the ill-formed stretches of a byte string. -/
def pieces (b : Bytes) : List (Option Char) := piecesFrom none b

/-- The text that the bytes encode, if they are well-formed. -/
def decode? (b : Bytes) : Option (List Char) := (pieces b).mapM id

/-- The text of the bytes, with U+FFFD for each ill-formed stretch. -/
def decodeLossy (b : Bytes) : List Char := (pieces b).map (·.getD '\uFFFD')

/-- The bytes of a string. -/
def ofString (s : String) : Bytes := encode s.toList

/-- The string that the bytes encode, if they are well-formed. -/
def toString? (b : Bytes) : Option String := (decode? b).map String.ofList

/-- The string of the bytes, with U+FFFD for each ill-formed stretch. -/
def toStringLossy (b : Bytes) : String := String.ofList (decodeLossy b)

@[simp] theorem encode_nil : encode [] = [] := rfl

@[simp] theorem encode_append (s t : List Char) : encode (s ++ t) = encode s ++ encode t := by
  simp [encode]

@[simp] theorem pieces_nil : pieces [] = [] := rfl

end Utf8

end RecordingIndex
