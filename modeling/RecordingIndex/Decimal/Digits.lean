/-!
# Decimal — digits

The value of a string of digits in a base up to sixteen, letters counted from ten in either case.
-/

namespace RecordingIndex.Decimal

/-- The value of a digit. -/
def digitValue (c : Char) : Nat :=
  if '0' ≤ c ∧ c ≤ '9' then c.toNat - '0'.toNat
  else if 'a' ≤ c ∧ c ≤ 'f' then c.toNat - 'a'.toNat + 10
  else if 'A' ≤ c ∧ c ≤ 'F' then c.toNat - 'A'.toNat + 10
  else 16

/-- Whether `c` is a digit in a base. -/
def isDigit (base : Nat) (c : Char) : Bool := digitValue c < base

/-- The value of a string of digits, whatever it holds. -/
def value (base : Nat) (cs : List Char) : Nat :=
  cs.foldl (fun n c => n * base + digitValue c) 0

/-- The value of a non-empty string of digits. -/
def value? (base : Nat) (cs : List Char) : Option Nat :=
  if cs ≠ [] ∧ cs.all (isDigit base) then some (value base cs) else none

/-- A number in hexadecimal digits, filled up with zeros to `width` places. -/
def hexadecimal (width n : Nat) : List Char :=
  let ds := (Nat.toDigits 16 n).map Char.toUpper
  List.replicate (width - ds.length) '0' ++ ds

end RecordingIndex.Decimal
