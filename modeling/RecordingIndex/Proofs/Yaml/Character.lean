import RecordingIndex.Yaml.Style

/-!
# Proofs — Yaml — classes of characters

How the classes of characters lie to each other, and what the first characters of a text decide.
-/

namespace RecordingIndex.Yaml

theorem isBlank_eq_false_of_isBreak {c : Char} (h : isBreak c = true) : isBlank c = false := by
  simp only [isBreak, Bool.or_eq_true, beq_iff_eq] at h
  rcases h with (((rfl | rfl) | rfl) | rfl) | rfl <;> rfl

/-- The only blank that can stand unescaped is the space. -/
theorem eq_space_of_isPrintable {c : Char} (hp : isPrintable c = true) (hb : isBlank c = true) :
    c = ' ' := by
  simp only [isBlank, Bool.or_eq_true, beq_iff_eq] at hb
  rcases hb with rfl | rfl
  · rfl
  · cases hp

/-- What can stand unescaped is allowed, and no line end but the line feed is rewritten. -/
theorem isAllowed_of_isPrintable {c : Char} (h : isPrintable c = true) :
    isAllowed c = true ∧ c ≠ '\r' ∧ c ≠ '\u0085' ∧ c ≠ '\uFEFF' := by
  have hne : c ≠ '\r' ∧ c ≠ '\u0085' ∧ c ≠ '\uFEFF' := by
    refine ⟨?_, ?_, ?_⟩ <;> (rintro rfl; cases h)
  refine ⟨?_, hne⟩
  simp only [isPrintable, Bool.or_eq_true, Bool.and_eq_true] at h
  simp only [isAllowed, Bool.or_eq_true, Bool.and_eq_true]
  rcases h with (((h | h) | h) | ⟨h, -⟩) | h <;> simp [h]

theorem endsWord_append {r : List Char} (h : r ≠ []) (tail : List Char) :
    endsWord (r ++ tail) = endsWord r := by
  cases r with
  | nil => exact absurd rfl h
  | cons c r => rfl

theorem startsDocumentMark_of_head {c : Char} {r : List Char} (h₁ : c ≠ '-') (h₂ : c ≠ '.') :
    startsDocumentMark (c :: r) = false := by
  unfold startsDocumentMark
  split <;> simp_all

/-- A line end is not the start of a document mark. -/
theorem startsDocumentMark_of_isBreak {c : Char} {r : List Char} (h : isBreak c = true) :
    startsDocumentMark (c :: r) = false :=
  startsDocumentMark_of_head (by rintro rfl; cases h) (by rintro rfl; cases h)

/-- The text behind the indentation of a line: the line ends there or a token starts. -/
def IsOutset (v : List Char) : Prop :=
  ∀ c ∈ v.head?, isBlank c = false ∧ isBreak c = false ∧ c ≠ '#' ∧ c ≠ '\uFEFF'

end RecordingIndex.Yaml
