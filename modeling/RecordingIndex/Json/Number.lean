import RecordingIndex.Decimal.Binary64
import RecordingIndex.Json.Token
import RecordingIndex.Mismatch

/-!
# Json — numbers

An integer that fits is itself.  Every other number is a floating-point one: as many digits as fit
into 64 bits, rounded, and then multiplied or divided by powers of ten, each of them and each
product rounded too.  A product that is infinite is refused.
-/

namespace RecordingIndex.Json

/-- The numbers that significant digits stay below. -/
def digitBound : Nat := UInt64.size

/-- The greatest power of ten that one step multiplies or divides by. -/
def maxPower : Nat := 308

/-- The exponents that are told apart. -/
def exponentBound : Nat := 1 <<< 31

/-- The digits as long as the number stays below the bound, and those that are left. -/
def significant (n : Nat) : List Char → Nat × List Char
  | []     => (n, [])
  | c :: r =>
      let next := n * 10 + Decimal.digitValue c
      if next < digitBound then significant next r else (n, c :: r)

/-- A number divided by the power of ten, step by step. -/
def scaleDown (x : Binary64) : (steps : Nat) → (power : Nat) → Binary64
  | 0,         _     => x
  | steps + 1, power =>
      if power ≤ maxPower then x.dividedBy (.ofScientific false 1 power)
      else if x.isZero then x
      else scaleDown (x.dividedBy (.ofScientific false 1 maxPower)) steps (power - maxPower)

/-- A number scaled by a power of ten, if it is finite. -/
def scaled? (x : Binary64) (power : Int) : Option Binary64 :=
  if power < 0 then some (scaleDown x ((-power).toNat / maxPower + 1) (-power).toNat)
  else if power.toNat ≤ maxPower then
    (some (x.times (.ofScientific false 1 power.toNat))).filter Binary64.isFinite
  else if x.isZero then some x
  else none

namespace Numeral

/-- Whether a number is written as an integer. -/
def isInteger (n : Numeral) : Bool := n.fraction.isEmpty && n.exponent.isEmpty

/-- The floating-point number of a numeral, if it is finite. -/
def float? (n : Numeral) : Option Binary64 :=
  let (front, left) := significant 0 n.whole
  let (digits, unread) := significant front n.fraction
  let places : Int := left.length - ((n.fraction.length - unread.length : Nat) : Int)
  let exponent : Int := Decimal.value 10 n.exponent
  let size :=
    if exponentBound ≤ Decimal.value 10 n.exponent then
      if digits ≠ 0 ∧ !n.negativeExponent then none else some (Binary64.nearest false 0 1)
    else
      scaled? (.nearest false digits 1)
        (places + if n.negativeExponent then -exponent else exponent)
  size.map (.withSign n.negative)

/-- What a number is, in complaints; one that is too great is nothing at all. -/
def unwanted? (n : Numeral) : Option Unwanted :=
  let v := Decimal.value 10 n.whole
  if n.isInteger ∧ v < digitBound ∧ (!n.negative ∨ 0 < v ∧ v ≤ 1 <<< 63) then
    some (.integer (if n.negative then -v else v))
  else n.float?.map .float

end Numeral

end RecordingIndex.Json
