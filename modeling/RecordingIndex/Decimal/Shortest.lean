import RecordingIndex.Decimal.Binary64

/-!
# Decimal — the shortest numeral that reads back

For a finite number the interval of reals that round to it is known exactly.  `Shortest.digits`
tries one significant digit, then two, up to seventeen: the first decimal grid with a point in the
interval wins, and of its points the one nearest to the number.  `Shortest.positional` and
`Shortest.scientific` set out the digits found.
-/

namespace RecordingIndex.Shortest

/-- A positive number `m · 2 ^ q` in quarters of its unit, with the ends of the interval that
rounds to it: `low`, `here` and `high`, each over `den`, and whether the ends belong to it. -/
structure Interval where
  low    : Nat
  here   : Nat
  high   : Nat
  den    : Nat
  closed : Bool

/-- The interval that rounds to `m · 2 ^ q`. -/
def Interval.of (m : Nat) (q : Int) : Interval :=
  -- The neighbour below a power of two is only half as far away.
  let below := if m = 1 <<< 52 ∧ -1074 < q then 1 else 2
  let scale := 1 <<< (q - 2).toNat
  ⟨(4 * m - below) * scale, 4 * m * scale, (4 * m + 2) * scale, 1 <<< (2 - q).toNat, m % 2 = 0⟩

/-- `n` in units of `10 ^ p`, as numerator and denominator. -/
def onGrid (n den : Nat) (p : Int) : Nat × Nat :=
  if 0 ≤ p then (n, den * Nat.pow 10 p.toNat) else (n * Nat.pow 10 (-p).toNat, den)

/-- Whether `d · 10 ^ p` rounds to the number. -/
def Interval.contains (i : Interval) (d : Nat) (p : Int) : Bool :=
  let (low, den) := onGrid i.low i.den p
  let (high, _) := onGrid i.high i.den p
  if i.closed then low ≤ d * den && d * den ≤ high else low < d * den && d * den < high

/-- The point of the grid `10 ^ p` nearest to the number, of those that round to it. -/
def Interval.hit? (i : Interval) (p : Int) : Option Nat :=
  let (n, den) := onGrid i.here i.den p
  let d := n / den
  match i.contains d p, i.contains (d + 1) p with
  | true,  true  => some (Binary64.roundDiv n den)
  | true,  false => some d
  | false, true  => some (d + 1)
  | false, false => none

/-- The number of digits before the point, negative for zeros after it. -/
def magnitude (num den : Nat) : Int :=
  let guess : Int := (((num.log2 : Int) - (den.log2 : Int)) * 30103) / 100000 - 1
  let fits (k : Int) : Bool :=
    let (n, d) := onGrid num den k
    n < d
  if fits guess then guess
  else if fits (guess + 1) then guess + 1
  else if fits (guess + 2) then guess + 2
  else guess + 3

/-- The first grid with a hit, from `count` digits on. -/
def search (i : Interval) (k : Int) : (tries : Nat) → (count : Nat) → Nat × Int
  | 0,         count => ((i.hit? (k - count)).getD 0, k - count)
  | tries + 1, count =>
      match i.hit? (k - count) with
      | some d => (d, k - count)
      | none   => search i k tries (count + 1)

/-- The value `d · 10 ^ p` with no zero at the end of `d`. -/
def strip : (fuel : Nat) → Nat → Int → Nat × Int
  | 0,        d, p => (d, p)
  | fuel + 1, d, p => if d ≠ 0 ∧ d % 10 = 0 then strip fuel (d / 10) (p + 1) else (d, p)

/-- The shortest digits and their scale for `m · 2 ^ q`. -/
def digits (m : Nat) (q : Int) : Nat × Int :=
  if m = 0 then (0, 0)
  else
    let i := Interval.of m q
    let (d, p) := search i (magnitude i.here i.den) 16 1
    strip 20 d p

/-! ### Setting out -/

/-- The digits of `d · 10 ^ p` with a point among them, or with `.0` after them. -/
def positional (d : Nat) (p : Int) : String :=
  let ds := Nat.toDigits 10 d
  if 0 ≤ p then String.ofList (ds ++ List.replicate p.toNat '0') ++ ".0"
  else
    let places := (-p).toNat
    if places < ds.length then
      String.ofList (ds.take (ds.length - places)) ++ "." ++
        String.ofList (ds.drop (ds.length - places))
    else "0." ++ String.ofList (List.replicate (places - ds.length) '0' ++ ds)

/-- The first digit of `d · 10 ^ p`, the others after a point, and the power of ten after `e`. -/
def scientific (d : Nat) (p : Int) : String :=
  let ds := Nat.toDigits 10 d
  let power := p + ds.length - 1
  let fraction := if ds.length = 1 then "" else "." ++ String.ofList (ds.drop 1)
  String.ofList (ds.take 1) ++ fraction ++ "e" ++ toString power

end RecordingIndex.Shortest

namespace RecordingIndex.Binary64

/-- How a finite number is written: positionally for magnitudes in a range, else with an
exponent. -/
structure Format where
  isPositional : (magnitude : Int) → Bool
  infinity     : String
  notANumber   : String

/-- The text of a number in a format. -/
def Format.text (f : Format) : Binary64 → String
  | .finite negative m q =>
      let (d, p) := Shortest.digits m q
      let magnitude := p + (Nat.toDigits 10 d).length
      let body := if f.isPositional magnitude then Shortest.positional d p
        else Shortest.scientific d p
      if negative then "-" ++ body else body
  | .infinite negative   => if negative then "-" ++ f.infinity else f.infinity
  | .notANumber          => f.notANumber

/-- Every finite number is written positionally. -/
def plainFormat : Format := ⟨fun _ => true, "inf", "NaN"⟩

/-- Magnitudes from -4 to 16 are written positionally. -/
def compactFormat : Format := ⟨fun k => -5 < k && k ≤ 16, "inf", "NaN"⟩

end RecordingIndex.Binary64
