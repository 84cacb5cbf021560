import RecordingIndex.Proofs.Decimal.Digits
import RecordingIndex.Yaml.Scalar

/-!
# Proofs — Yaml — the grammar of natural numbers

A natural number is written in decimal digits, of which the first of several is not zero, or in
the digits of another base after its mark; a plus sign may stand before either (`Writes`).  A text
is read below a bound exactly if it writes a number below it (`natural?_eq_some_iff`), and a plain
text stands for a natural number of 64 bits exactly if it writes it (`of_eq_natural_iff`), so no
number is taken for another one modulo a power of two.
-/

namespace RecordingIndex

variable {base bound k : Nat} {cs ds : List Char}

/-! ### Digits -/

namespace Decimal

theorem value?_eq_some_iff :
    value? base cs = some k ↔ cs ≠ [] ∧ (∀ c ∈ cs, isDigit base c = true) ∧ value base cs = k := by
  simp [value?, and_assoc]

end Decimal

namespace Yaml.Reading

/-- The marks of the bases other than ten. -/
def marks : List (Char × Nat) := [('x', 16), ('o', 8), ('b', 2)]

/-- The text has a value as digits without a sign. -/
inductive Numeral : List Char → Nat → Prop
  | decimal {ds : List Char} {k : Nat} (hvalue : Decimal.value? 10 ds = some k)
      (hzero : ∀ d r, ds ≠ '0' :: d :: r) : Numeral ds k
  | based {mark : Char} {base : Nat} {ds : List Char} {k : Nat} (hmark : (mark, base) ∈ marks)
      (hvalue : Decimal.value? base ds = some k) : Numeral ('0' :: mark :: ds) k

/-- The text writes a natural number. -/
def Writes (cs : List Char) (k : Nat) : Prop := ∃ ds, (cs = ds ∨ cs = '+' :: ds) ∧ Numeral ds k

/-! ### Written digits -/

/-- A number of several digits does not start with a zero. -/
theorem toDigits_ne_zero_cons (k : Nat) (d : Char) (r : List Char) :
    Nat.toDigits 10 k ≠ '0' :: d :: r := by
  intro h
  by_cases hk : k = 0
  · subst hk
    cases h
  · exact Decimal.head?_toDigits hk (by rw [h]; rfl)

theorem writes_toDigits (k : Nat) : Writes (Nat.toDigits 10 k) k := by
  have hvalue : Decimal.value? 10 (Nat.toDigits 10 k) = some k :=
    Decimal.value?_eq_some_iff.mpr
      ⟨Nat.toDigits_ne_nil, fun _ => Decimal.isDigit_of_mem_toDigits, Decimal.value_toDigits k⟩
  exact ⟨_, .inl rfl, .decimal hvalue (toDigits_ne_zero_cons k)⟩

/-! ### Reading digits -/

theorem based?_eq_some_iff :
    based? cs = some k ↔ ∃ mark base ds, (mark, base) ∈ marks ∧ cs = '0' :: mark :: ds ∧
      Decimal.value? base ds = some k := by
  constructor
  · intro h
    unfold based? at h
    split at h
    · exact ⟨'x', 16, _, by decide, rfl, h⟩
    · exact ⟨'o', 8, _, by decide, rfl, h⟩
    · exact ⟨'b', 2, _, by decide, rfl, h⟩
    · cases h
  · rintro ⟨mark, base, ds, hmark, rfl, hvalue⟩
    simp only [marks, List.mem_cons, Prod.mk.injEq, List.not_mem_nil, or_false] at hmark
    rcases hmark with ⟨rfl, rfl⟩ | ⟨rfl, rfl⟩ | ⟨rfl, rfl⟩ <;> exact hvalue

theorem isDigit_of_value? (h : Decimal.value? base cs = some k) :
    ∀ c ∈ cs, Decimal.isDigit base c = true :=
  (Decimal.value?_eq_some_iff.mp h).2.1

/-- No mark of a base is a decimal digit. -/
theorem based?_of_decimal (h : Decimal.value? 10 cs = some k) : based? cs = none := by
  rw [Option.eq_none_iff_forall_ne_some]
  intro n hn
  obtain ⟨mark, base, ds, hmark, rfl, -⟩ := based?_eq_some_iff.mp hn
  have hdigit := isDigit_of_value? h mark (by simp)
  have hno : ∀ m ∈ marks, Decimal.isDigit 10 m.1 = false := by decide
  rw [hno _ hmark] at hdigit
  cases hdigit

theorem Numeral.exists_cons (h : Numeral ds k) :
    ∃ c r, ds = c :: r ∧ Decimal.isDigit 10 c = true := by
  cases h with
  | decimal hvalue _ =>
      obtain ⟨hne, hdigits, -⟩ := Decimal.value?_eq_some_iff.mp hvalue
      obtain ⟨c, r, rfl⟩ := List.exists_cons_of_ne_nil hne
      exact ⟨c, r, rfl, hdigits c List.mem_cons_self⟩
  | based => exact ⟨'0', _, rfl, by decide⟩

theorem unsigned_of_numeral (h : Numeral ds k) (hcs : cs = ds ∨ cs = '+' :: ds) :
    unsigned cs = ds := by
  rcases hcs with rfl | rfl
  · obtain ⟨c, r, rfl, hdigit⟩ := h.exists_cons
    unfold unsigned
    split
    · next heq =>
        obtain ⟨rfl, -⟩ := List.cons.inj heq
        exact absurd hdigit (by decide)
    · rfl
  · rfl

theorem eq_unsigned_or (cs : List Char) : cs = unsigned cs ∨ cs = '+' :: unsigned cs := by
  unfold unsigned
  split
  · exact .inr rfl
  · exact .inl rfl

/-- Digits, with or without a sign, start with a zero too many if the first of several is zero. -/
theorem isZeroLed_eq_false_iff (h : Decimal.value? 10 ds = some k)
    (hcs : cs = ds ∨ cs = '+' :: ds) : isZeroLed cs = false ↔ ∀ d r, ds ≠ '0' :: d :: r := by
  have hdigits := isDigit_of_value? h
  -- Digits have no sign, so one more is passed over like one that is there.
  have hsigned : isZeroLed cs = isZeroLed ('+' :: ds) := by
    rcases hcs with rfl | rfl
    · unfold isZeroLed
      split
      · exact absurd (hdigits '-' List.mem_cons_self) (by decide)
      · exact absurd (hdigits '+' List.mem_cons_self) (by decide)
      · rfl
    · rfl
  rw [hsigned]
  unfold isZeroLed
  dsimp only
  split
  · next d r heq =>
      obtain rfl : ds = '0' :: d :: r := heq
      have hall : (d :: r).all (Decimal.isDigit 10) = true :=
        List.all_eq_true.mpr fun c hc => hdigits c (List.mem_cons_of_mem _ hc)
      simp [hall]
  · next hno => exact ⟨fun _ => hno, fun _ => rfl⟩

theorem writes_iff : Writes cs k ↔ Numeral (unsigned cs) k := by
  constructor
  · rintro ⟨ds, hcs, h⟩
    rwa [unsigned_of_numeral h hcs]
  · intro h
    exact ⟨unsigned cs, eq_unsigned_or cs, h⟩

/-- Digits after the mark of a base are read in that base alone, decimal digits in base ten. -/
theorem numeral_unsigned_iff : Numeral (unsigned cs) k ↔
    based? (unsigned cs) = some k ∨
      based? (unsigned cs) = none ∧ isZeroLed cs = false ∧
        Decimal.value? 10 (unsigned cs) = some k := by
  constructor
  · intro h
    generalize hds : unsigned cs = ds at h
    cases h with
    | decimal hvalue hzero =>
        have hcs := eq_unsigned_or cs
        rw [hds] at hcs
        exact .inr ⟨based?_of_decimal hvalue, (isZeroLed_eq_false_iff hvalue hcs).mpr hzero, hvalue⟩
    | based hmark hvalue => exact .inl (based?_eq_some_iff.mpr ⟨_, _, _, hmark, rfl, hvalue⟩)
  · rintro (h | ⟨-, hzero, hvalue⟩)
    · obtain ⟨mark, base, ds, hmark, heq, hvalue⟩ := based?_eq_some_iff.mp h
      rw [heq]
      exact .based hmark hvalue
    · exact .decimal hvalue ((isZeroLed_eq_false_iff hvalue (eq_unsigned_or cs)).mp hzero)

/-- **Below a bound** a text is read for the number that it writes. -/
theorem natural?_eq_some_iff : natural? bound cs = some k ↔ Writes cs k ∧ k < bound := by
  have hfits (o : Option Nat) : o.bind (fun n => if n < bound then some n else none) = some k ↔
      o = some k ∧ k < bound := by
    cases o with
    | none => simp
    | some n =>
        simp only [Option.bind_some, Option.ite_none_right_eq_some, Option.some.injEq]
        exact ⟨fun ⟨hlt, heq⟩ => ⟨heq, heq ▸ hlt⟩, fun ⟨heq, hlt⟩ => ⟨heq ▸ hlt, heq⟩⟩
  rw [writes_iff, numeral_unsigned_iff, natural?]
  cases hbased : based? (unsigned cs) with
  | none =>
      cases hzero : isZeroLed cs with
      | true => simp
      | false => simp [hfits]
  | some n =>
      -- A number after a mark that is too great is not read in base ten.
      have hdecimal : Decimal.value? 10 (unsigned cs) = none := by
        rw [Option.eq_none_iff_forall_ne_some]
        intro m hm
        rw [based?_of_decimal hm] at hbased
        cases hbased
      simp only [hdecimal, Option.bind_none, ite_self, reduceCtorEq, false_and, or_false]
      rw [← hfits]
      cases (some n).bind fun n => if n < bound then some n else none <;> rfl

theorem Writes.unique {k' : Nat} (h : Writes cs k) (h' : Writes cs k') : k = k' := by
  have hread := natural?_eq_some_iff.mpr ⟨h, Nat.lt_succ_of_le (Nat.le_max_left k k')⟩
  have hread' := natural?_eq_some_iff.mpr ⟨h', Nat.lt_succ_of_le (Nat.le_max_right k k')⟩
  exact Option.some.inj (hread.symm.trans hread')

/-- A text that writes a number starts with a digit or a plus sign, so it is none of other words. -/
theorem Writes.not_contains (h : Writes cs k) {words : List String}
    (hwords : ∀ s ∈ words, (s.toList.head?.any fun c => Decimal.isDigit 10 c || c = '+') = false) :
    words.contains (String.ofList cs) = false := by
  obtain ⟨ds, hcs, hnumeral⟩ := h
  obtain ⟨c, r, rfl, hdigit⟩ := hnumeral.exists_cons
  rw [← Bool.not_eq_true, List.contains_iff_mem]
  intro hmem
  have hother := hwords _ hmem
  rw [String.toList_ofList] at hother
  rcases hcs with rfl | rfl
  · simp [hdigit] at hother
  · simp at hother

theorem integer?_eq_natural_iff {w : UInt64} :
    integer? cs = some (.natural w) ↔ Writes cs w.toNat := by
  have hwrites : Writes cs w.toNat ↔ natural? UInt64.size cs = some w.toNat := by
    rw [natural?_eq_some_iff, and_iff_left w.toNat_lt]
  rw [hwrites, integer?]
  cases hn : natural? UInt64.size cs with
  | none =>
      -- Every other integer has a constructor of its own.
      cases negative? (1 <<< 63) cs <;> cases natural? (1 <<< 128) cs <;>
        cases negative? (1 <<< 127) cs <;> simp
  | some n =>
      have hlt : n < UInt64.size := (natural?_eq_some_iff.mp hn).2
      simp only [Option.some.injEq, natural.injEq]
      constructor
      · rintro rfl
        exact (UInt64.toNat_ofNat_of_lt hlt).symm
      · rintro rfl
        exact UInt64.ofNat_toNat

/-- **What stands for a natural number** of 64 bits is what writes it. -/
theorem of_eq_natural_iff {w : UInt64} : Reading.of cs = .natural w ↔ Writes cs w.toNat := by
  rw [← integer?_eq_natural_iff]
  constructor
  · intro h
    unfold Reading.of at h
    split at h
    · cases h
    split at h
    · cases h
    split at h
    · next n hn => rw [hn, h]
    split at h
    · cases h
    split at h <;> cases h
  · intro h
    have hwrites := integer?_eq_natural_iff.mp h
    have hne : cs ≠ [] := by
      rintro rfl
      cases h
    have hnull : isNull cs = false := hwrites.not_contains (by decide)
    have htruth : truth? cs = none := by
      rw [truth?, hwrites.not_contains (by decide), hwrites.not_contains (by decide)]
      rfl
    simp [Reading.of, hne, hnull, htruth, h]

end Yaml.Reading

end RecordingIndex
