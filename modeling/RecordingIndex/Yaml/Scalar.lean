import RecordingIndex.Decimal.Binary64

/-!
# Yaml — what a plain text stands for

A plain text stands for nothing, for a truth value, for a number or for itself, in this order
(`Reading.of`).  Numbers take a sign, and integers may be hexadecimal, octal or binary; digits after
a leading zero are no number but text.
-/

namespace RecordingIndex.Yaml

/-- The value that a plain text stands for.  Integers are told apart by the width they need. -/
inductive Reading where
  | nothing
  | truth (b : Bool)
  | natural (n : UInt64)
  | negative (n : Int)
  | wideNatural (n : Nat)
  | wideNegative (n : Int)
  | float (x : Binary64)
  | text
  deriving DecidableEq

namespace Reading

/-- Whether a text is a spelling of nothing that has characters. -/
def isNull (cs : List Char) : Bool := ["~", "null", "Null", "NULL"].contains (String.ofList cs)

/-- The truth value of a text. -/
def truth? (cs : List Char) : Option Bool :=
  if ["true", "True", "TRUE"].contains (String.ofList cs) then some true
  else if ["false", "False", "FALSE"].contains (String.ofList cs) then some false
  else none

/-- The text without a plus sign before it. -/
def unsigned : List Char → List Char
  | '+' :: r => r
  | cs       => cs

/-- Whether a text, its sign apart, is two or more digits of which the first is zero. -/
def isZeroLed (cs : List Char) : Bool :=
  let body :=
    match cs with
    | '-' :: r | '+' :: r => r
    | cs                  => cs
  match body with
  | '0' :: d :: r => (d :: r).all (Decimal.isDigit 10)
  | _             => false

/-- A number in a base other than ten, by its first two characters. -/
def based? : List Char → Option Nat
  | '0' :: 'x' :: ds => Decimal.value? 16 ds
  | '0' :: 'o' :: ds => Decimal.value? 8 ds
  | '0' :: 'b' :: ds => Decimal.value? 2 ds
  | _                => none

/-- The natural number of a text, below a bound. -/
def natural? (bound : Nat) (cs : List Char) : Option Nat :=
  let fits (n : Nat) : Option Nat := if n < bound then some n else none
  match (based? (unsigned cs)).bind fits with
  | some n => some n
  | none   => if isZeroLed cs then none else (Decimal.value? 10 (unsigned cs)).bind fits

/-- The integer of a text with a minus sign, not below a bound. -/
def negative? (bound : Nat) : List Char → Option Int
  | '-' :: cs =>
      let fits (n : Nat) : Option Int := if n ≤ bound then some (-(n : Int)) else none
      match (based? cs).bind fits with
      | some n => some n
      | none   => if isZeroLed cs then none else (Decimal.value? 10 cs).bind fits
  | _         => none

/-- The floating-point number of a text: a finite numeral, an infinity or no number. -/
def float? (cs : List Char) : Option Binary64 :=
  let s := String.ofList cs
  if ["-.inf", "-.Inf", "-.INF"].contains s then some (.infinite true)
  else if [".nan", ".NaN", ".NAN"].contains s then some .notANumber
  else
    let body := unsigned cs
    if [".inf", ".Inf", ".INF"].contains (String.ofList body) then some (.infinite false)
    else if body ≠ cs ∧ (body.head? = some '+' ∨ body.head? = some '-') then none
    else (Binary64.ofDecimal? body).filter Binary64.isFinite

/-- The integer of a text. -/
def integer? (cs : List Char) : Option Reading :=
  if let some n := natural? UInt64.size cs then some (.natural (UInt64.ofNat n))
  else if let some n := negative? (1 <<< 63) cs then some (.negative n)
  else if let some n := natural? (1 <<< 128) cs then some (.wideNatural n)
  else if let some n := negative? (1 <<< 127) cs then some (.wideNegative n)
  else none

/-- What a plain text stands for. -/
def of (cs : List Char) : Reading :=
  if cs = [] ∨ isNull cs then .nothing
  else if let some b := truth? cs then .truth b
  else if let some n := integer? cs then n
  else if isZeroLed cs then .text
  else if let some x := float? cs then .float x
  else .text

end Reading

end RecordingIndex.Yaml
