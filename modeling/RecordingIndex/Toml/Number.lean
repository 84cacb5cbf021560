import RecordingIndex.Toml.Table
import RecordingIndex.Toml.Text

/-!
# Toml — numbers, dates and times

What starts with a digit or a sign is tried as a date or a time, as a floating-point number and as
an integer, in this order.  A trial that has gone so far that nothing else is possible does not give
way to the next one: it fails.  Digits may be grouped by single underscores between them.
-/

namespace RecordingIndex.Toml

/-! ### Dates and times -/

/-- The number of two digits at the start, if it lies within bounds. -/
def pair? (low high : Nat) : List Char → Option (Nat × List Char)
  | a :: b :: r =>
      match Decimal.value? 10 [a, b] with
      | some n => if low ≤ n ∧ n ≤ high then some (n, r) else none
      | none   => none
  | _           => none

/-- Reads the two digits that must follow. -/
def pair (low high : Nat) (cs : List Char) : Except Fault (Nat × List Char) :=
  match pair? low high cs with
  | some x => .ok x
  | none   => .error .badDate

/-- Reads the character that must follow. -/
def mark (c : Char) : List Char → Except Fault (List Char)
  | d :: r => if d = c then .ok r else .error .badDate
  | []     => .error .badDate

/-- What follows the fraction of a second, if there is one. -/
def skipFraction : List Char → List Char
  | '.' :: d :: r =>
      if Decimal.isDigit 10 d then r.dropWhile (Decimal.isDigit 10) else '.' :: d :: r
  | cs            => cs

/-- Tries to read a time of day. -/
def time? (cs : List Char) : Except Fault (Option (List Char)) :=
  match pair? 0 23 cs with
  | some (_, ':' :: r) => do
      let (_, r) ← pair 0 59 r
      let r ← mark ':' r
      let (_, r) ← pair 0 60 r
      return some (skipFraction r)
  | _                  => .ok none

/-- Reads the distance to the standard time, if it is given. -/
def offset (cs : List Char) : Except Fault (List Char) :=
  match cs with
  | c :: r =>
      if c = 'Z' ∨ c = 'z' then .ok r
      else if c = '+' ∨ c = '-' then do
        let (_, r) ← pair 0 23 r
        let r ← mark ':' r
        let (_, r) ← pair 0 59 r
        return r
      else .ok cs
  | []     => .ok []

/-- The days of a month. -/
def daysOf (year month : Nat) : Nat :=
  if month = 2 then
    if year % 4 = 0 ∧ (year % 100 ≠ 0 ∨ year % 400 = 0) then 29 else 28
  else if month = 4 ∨ month = 6 ∨ month = 9 ∨ month = 11 then 30
  else 31

/-- Reads the time of day and the distance behind a date, if they are given. -/
def timeOfDate (cs : List Char) : Except Fault (List Char) :=
  match cs with
  | c :: r =>
      if c = 'T' ∨ c = 't' ∨ c = ' ' then do
        match ← time? r with
        | some r => offset r
        | none   => return cs
      else .ok cs
  | []     => .ok []

/-- Tries to read a date, with or without a time. -/
def date? (cs : List Char) : Except Fault (Option (List Char)) :=
  match Decimal.value? 10 (cs.take 4), cs.drop 4 with
  | some year, '-' :: r => do
      let (month, r) ← pair 1 12 r
      let r ← mark '-' r
      let (day, r) ← pair 1 31 r
      if daysOf year month < day then throw .badDate
      let r ← timeOfDate r
      return some r
  | _,         _        => time? cs

/-! ### Digits -/

/-- Reads on digits with single underscores between them. -/
def digitsFrom (base : Nat) : List Char → Except Fault (List Char × List Char)
  | '_' :: c :: r =>
      if Decimal.isDigit base c then push c (digitsFrom base r) else .error .badNumber
  | ['_']         => .error .badNumber
  | c :: r        =>
      if Decimal.isDigit base c then push c (digitsFrom base r) else .ok ([], c :: r)
  | []            => .ok ([], [])

/-- Reads one or more digits. -/
def digits (base : Nat) : List Char → Except Fault (List Char × List Char)
  | c :: r => if Decimal.isDigit base c then push c (digitsFrom base r) else .error .badNumber
  | []     => .error .badNumber

/-- The sign at the start, and what follows it. -/
def sign : List Char → List Char × List Char
  | '+' :: r => (['+'], r)
  | '-' :: r => (['-'], r)
  | cs       => ([], cs)

/-- Tries to read a decimal integer, which has no zero before other digits. -/
def decimal? (cs : List Char) : Except Fault (Option (List Char × List Char)) :=
  let (s, r) := sign cs
  match r with
  | c :: t =>
      if c = '0' then .ok (some (s ++ [c], t))
      else if Decimal.isDigit 10 c then (digits 10 r).map fun (ds, t) => some (s ++ ds, t)
      else .ok none
  | []     => .ok none

/-! ### Floating-point numbers -/

/-- Reads the exponent of a number, if it has one. -/
def exponent : List Char → Except Fault (List Char × List Char)
  | c :: r =>
      if c = 'e' ∨ c = 'E' then do
        let (s, r) := sign r
        let (ds, r) ← digits 10 r
        return (c :: s ++ ds, r)
      else .ok ([], c :: r)
  | []     => .ok ([], [])

/-- The number of a numeral; one too great to be finite is refused. -/
def finite (numeral : List Char) : Except Fault Binary64 :=
  match Binary64.ofDecimal? numeral with
  | some x => if x = .infinite false then .error .badNumber else .ok x
  | none   => .error .badNumber

/-- Tries to read a number by name. -/
def named? (cs : List Char) : Except Fault (Option (Binary64 × List Char)) :=
  let (s, r) := sign cs
  match r with
  | 'i' :: 'n' :: 'f' :: r => .ok (some (.infinite (s = ['-']), r))
  | 'n' :: 'a' :: 'n' :: r => .ok (some (.notANumber, r))
  | _                      => .ok none

/-- Tries to read a number with a fraction, an exponent or a name. -/
def float? (cs : List Char) : Except Fault (Option (Binary64 × List Char)) := do
  match ← decimal? cs with
  | none              => named? cs
  | some (whole, r)   =>
      match r with
      | '.' :: r => do
          let (fraction, r) ← digits 10 r
          let (power, r) ← exponent r
          return some (← finite (whole ++ '.' :: fraction ++ power), r)
      | r        => do
          let (power, r) ← exponent r
          if power = [] then return none
          return some (← finite (whole ++ power), r)

/-! ### Integers -/

/-- The greatest integer, and one more. -/
def integerBound : Nat := 1 <<< 63

/-- Reads digits in a base that the characters before them have told. -/
def basedInteger (base : Nat) (cs : List Char) : Except Fault (Int × List Char) := do
  let (ds, r) ← digits base cs
  if Decimal.value base ds < integerBound then return (Decimal.value base ds, r)
  throw .badNumber

/-- The value of a decimal numeral. -/
def integerOf (numeral : List Char) : Except Fault Int :=
  let (s, ds) := sign numeral
  let n := Decimal.value 10 ds
  if s = ['-'] then if n ≤ integerBound then .ok (-n) else .error .badNumber
  else if n < integerBound then .ok n
  else .error .badNumber

/-- Reads an integer. -/
def integer : List Char → Except Fault (Int × List Char)
  | '0' :: 'x' :: r => basedInteger 16 r
  | '0' :: 'o' :: r => basedInteger 8 r
  | '0' :: 'b' :: r => basedInteger 2 r
  | cs              => do
      match ← decimal? cs with
      | some (numeral, r) => return (← integerOf numeral, r)
      | none              => throw .badNumber

/-- Reads a date, a time or a number. -/
def number (cs : List Char) : Except Fault (Item × List Char) := do
  match ← date? cs with
  | some r => return (.date, r)
  | none   =>
      match ← float? cs with
      | some (x, r) => return (.float x, r)
      | none        =>
          let (n, r) ← integer cs
          return (.integer n, r)

end RecordingIndex.Toml
