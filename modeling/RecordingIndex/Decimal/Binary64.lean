import RecordingIndex.Decimal.Digits

/-!
# Decimal — binary numbers of 64 bits

A finite number is `mantissa · 2 ^ exponent` with a mantissa below `2 ^ 53` and an exponent from
-1074 to 971.  `Binary64.nearest` rounds a quotient to such a number, a half going to the even
neighbour; `Binary64.ofDecimal` reads a decimal numeral by it.
-/

namespace RecordingIndex

/-- A floating-point number of 64 bits. -/
inductive Binary64 where
  | finite (negative : Bool) (mantissa : Nat) (exponent : Int)
  | infinite (negative : Bool)
  | notANumber
  deriving DecidableEq

namespace Binary64

/-- The quotient rounded to the nearest natural number, a half to the even one. -/
def roundDiv (num den : Nat) : Nat :=
  let q := num / den
  let r := num % den
  if 2 * r < den ∨ (2 * r = den ∧ q % 2 = 0) then q else q + 1

/-- Numerator and denominator of `num / den` in units of `2 ^ e`. -/
def inUnits (num den : Nat) (e : Int) : Nat × Nat :=
  if 0 ≤ e then (num, den <<< e.toNat) else (num <<< (-e).toNat, den)

/-- The exponent at which the quotient has 53 bits, or the least exponent. -/
def unitOf (num den : Nat) : Int :=
  let e : Int := (num.log2 : Int) - (den.log2 : Int) - 52
  let (n, d) := inUnits num den e
  max (if n / d < 1 <<< 52 then e - 1 else e) (-1074)

/-- The number nearest to a quotient; infinite from half a unit above the greatest finite one. -/
def nearest (negative : Bool) (num den : Nat) : Binary64 :=
  if num = 0 then .finite negative 0 (-1074)
  else
    let e := unitOf num den
    let (n, d) := inUnits num den e
    let m := roundDiv n d
    -- Rounding up may carry into one more bit.
    let (m, e) := if m = 1 <<< 53 then (1 <<< 52, e + 1) else (m, e)
    if 971 < e then .infinite negative else .finite negative m e

/-- The number nearest to `digits · 10 ^ scale`. -/
def ofScientific (negative : Bool) (digits : Nat) (scale : Int) : Binary64 :=
  let magnitude : Int := ((Nat.toDigits 10 digits).length : Int) + scale
  if digits = 0 ∨ magnitude < -330 then .finite negative 0 (-1074)
  else if 310 < magnitude then .infinite negative
  else if 0 ≤ scale then nearest negative (digits * Nat.pow 10 scale.toNat) 1
  else nearest negative digits (Nat.pow 10 (-scale).toNat)

/-- Whether the number is finite. -/
def isFinite : Binary64 → Bool
  | .finite _ _ _ => true
  | _             => false

/-! ### Arithmetic -/

/-- The quotient that the size of a finite number is. -/
def quotient : Binary64 → Nat × Nat
  | .finite _ m q => if 0 ≤ q then (m <<< q.toNat, 1) else (m, 1 <<< (-q).toNat)
  | _             => (0, 1)

/-- The product of the sizes of two numbers, rounded. -/
def times (x y : Binary64) : Binary64 :=
  nearest false (x.quotient.1 * y.quotient.1) (x.quotient.2 * y.quotient.2)

/-- The quotient of the sizes of two numbers, rounded. -/
def dividedBy (x y : Binary64) : Binary64 :=
  nearest false (x.quotient.1 * y.quotient.2) (x.quotient.2 * y.quotient.1)

/-- Whether a number is a zero. -/
def isZero : Binary64 → Bool
  | .finite _ 0 _ => true
  | _             => false

/-- The number with the given sign. -/
def withSign (negative : Bool) : Binary64 → Binary64
  | .finite _ m q => .finite negative m q
  | .infinite _   => .infinite negative
  | .notANumber   => .notANumber

/-! ### Numerals -/

/-- The exponent of a numeral after its mark, with its sign. -/
def exponentOf? : List Char → Option Int
  | '-' :: ds => (Decimal.value? 10 ds).map fun n => -(n : Int)
  | '+' :: ds => (Decimal.value? 10 ds).map fun n => (n : Int)
  | ds        => (Decimal.value? 10 ds).map fun n => (n : Int)

/-- A numeral without sign: digits with at most one point among or beside them, and possibly an
exponent after `e` or `E`. -/
def ofUnsigned? (negative : Bool) (cs : List Char) : Option Binary64 := do
  let whole := cs.takeWhile (Decimal.isDigit 10)
  let afterWhole := cs.dropWhile (Decimal.isDigit 10)
  let (fraction, rest) :=
    match afterWhole with
    | '.' :: r => (r.takeWhile (Decimal.isDigit 10), r.dropWhile (Decimal.isDigit 10))
    | r        => ([], r)
  let digits ← Decimal.value? 10 (whole ++ fraction)
  let exponent ←
    match rest with
    | []     => some 0
    | c :: r => if c = 'e' ∨ c = 'E' then exponentOf? r else none
  pure (ofScientific negative digits (exponent - fraction.length))

/-- The number nearest to a decimal numeral with at most one sign. -/
def ofDecimal? : List Char → Option Binary64
  | '-' :: cs => ofUnsigned? true cs
  | '+' :: cs => ofUnsigned? false cs
  | cs        => ofUnsigned? false cs

end Binary64

end RecordingIndex
