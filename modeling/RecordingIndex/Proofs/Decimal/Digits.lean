import RecordingIndex.Decimal.Digits

/-!
# Proofs — Decimal — digits are read back

The value of the digits that a number is written in is the number (`value_toDigits`), and so is the
value of its hexadecimal digits, filled up with zeros (`value_hexadecimal`).
-/

namespace RecordingIndex.Decimal

theorem digitValue_digitChar : ∀ d < 16, digitValue d.digitChar = d := by decide

theorem digitValue_toUpper_digitChar : ∀ d < 16, digitValue d.digitChar.toUpper = d := by decide

theorem value_append (b : Nat) (cs ds : List Char) :
    value b (cs ++ ds) = ds.foldl (fun n c => n * b + digitValue c) (value b cs) :=
  List.foldl_append

/-! ### Digits under a change of case -/

section

variable {b : Nat} {f : Char → Char} (hb : 1 < b) (hf : ∀ d < b, digitValue (f d.digitChar) = d)

include hb hf

/-- The digits of a number have the number as their value. -/
theorem value_map_toDigits (n : Nat) : value b ((Nat.toDigits b n).map f) = n := by
  induction n using Nat.strongRecOn with
  | ind n ih =>
      by_cases h : n < b
      · rw [Nat.toDigits_of_lt_base h]
        simp [value, hf n h]
      · have hdiv : n / b < n := Nat.div_lt_self (by omega) hb
        rw [Nat.toDigits_of_base_le hb (Nat.le_of_not_lt h), List.map_append, value_append,
          ih _ hdiv]
        simp [hf (n % b) (Nat.mod_lt n (by omega)), Nat.div_add_mod']

theorem isDigit_of_mem_map_toDigits (n : Nat) :
    ∀ c ∈ (Nat.toDigits b n).map f, isDigit b c = true := by
  induction n using Nat.strongRecOn with
  | ind n ih =>
      by_cases h : n < b
      · rw [Nat.toDigits_of_lt_base h]
        simp [isDigit, hf n h, h]
      · have hdiv : n / b < n := Nat.div_lt_self (by omega) hb
        have hmod : n % b < b := Nat.mod_lt n (by omega)
        intro c hc
        rw [Nat.toDigits_of_base_le hb (Nat.le_of_not_lt h), List.map_append, List.mem_append] at hc
        rcases hc with hc | hc
        · exact ih _ hdiv c hc
        · obtain rfl : c = f (n % b).digitChar := by simpa using hc
          simp [isDigit, hf _ hmod, hmod]

end

/-! ### Decimal digits -/

theorem value_toDigits (n : Nat) : value 10 (Nat.toDigits 10 n) = n := by
  simpa using value_map_toDigits (f := id) (by omega)
    (fun d hd => digitValue_digitChar d (by omega)) n

theorem isDigit_of_mem_toDigits {n : Nat} {c : Char} (hc : c ∈ Nat.toDigits 10 n) :
    isDigit 10 c = true :=
  isDigit_of_mem_map_toDigits (f := id) (by omega)
    (fun d hd => digitValue_digitChar d (by omega)) n c (by simpa using hc)

/-- Only zero is written with a zero first. -/
theorem head?_toDigits {n : Nat} (hn : n ≠ 0) : (Nat.toDigits 10 n).head? ≠ some '0' := by
  induction n using Nat.strongRecOn with
  | ind n ih =>
      by_cases h : n < 10
      · rw [Nat.toDigits_of_lt_base h]
        have : ∀ d < 10, d ≠ 0 → [d.digitChar].head? ≠ some '0' := by decide
        exact this n h hn
      · rw [Nat.toDigits_of_base_le (by omega) (Nat.le_of_not_lt h),
          List.head?_append, List.head?_eq_some_head Nat.toDigits_ne_nil, Option.some_or,
          ← List.head?_eq_some_head Nat.toDigits_ne_nil]
        exact ih _ (by omega) (by omega)

/-! ### Hexadecimal digits -/

theorem length_hexadecimal {width n : Nat} (hw : 0 < width) (hn : n < Nat.pow 16 width) :
    (hexadecimal width n).length = width := by
  have h := (Nat.length_toDigits_le_iff (b := 16) (by omega) hw).mpr hn
  simp only [hexadecimal, List.length_append, List.length_replicate, List.length_map]
  omega

theorem value_hexadecimal (width n : Nat) : value 16 (hexadecimal width n) = n := by
  have hzeros : ∀ k, value 16 (List.replicate k '0') = 0 := by
    intro k
    induction k with
    | zero => rfl
    | succ k ih => rw [List.replicate_succ', value_append, ih]; rfl
  rw [hexadecimal, value_append, hzeros]
  exact value_map_toDigits (by omega) digitValue_toUpper_digitChar n

theorem isDigit_of_mem_hexadecimal {width n : Nat} {c : Char} (hc : c ∈ hexadecimal width n) :
    isDigit 16 c = true := by
  simp only [hexadecimal, List.mem_append, List.mem_replicate] at hc
  rcases hc with ⟨-, rfl⟩ | hc
  · rfl
  · exact isDigit_of_mem_map_toDigits (by omega) digitValue_toUpper_digitChar n c hc

end RecordingIndex.Decimal
