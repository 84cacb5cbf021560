import RecordingIndex.Proofs.Yaml.Character
import RecordingIndex.Yaml.Token.Plain

/-!
# Proofs — Yaml — plain texts are read back

A text *stands plain* (`StandsPlain`) when it holds no line end, no indicator and no blank at its
end.  `plainFrom` reads such a text to its end whatever follows (`plainFrom_append`).  It stops
there at a colon that ends a word (`plain_colon`), and at a line end before a line that is not
indented enough (`plain_newline`).
-/

namespace RecordingIndex.Yaml

/-! ### Texts that stand plain -/

/-- No line end in `s`, no indicator, `afterBlank` telling what precedes `s`, and no blank at its
end. -/
structure StandsPlain (afterBlank : Bool) (s : List Char) : Prop where
  noBreak     : ∀ c ∈ s, isBreak c = false
  noIndicator : Style.indicatorInside afterBlank s = false
  endsInWord  : ∀ c ∈ s.getLast?, isBlank c = false

namespace StandsPlain

variable {b : Bool} {c : Char} {r : List Char}

theorem head_break (h : StandsPlain b (c :: r)) : isBreak c = false := h.noBreak c (by simp)

/-- The first character starts no comment. -/
theorem head_comment (h : StandsPlain b (c :: r)) : (c == '#' && b) = false := by
  have hi := h.noIndicator
  simp only [Style.indicatorInside, Bool.or_eq_false_iff] at hi
  exact hi.1.2

/-- The first character ends no key, whatever follows the text. -/
theorem head_colon (h : StandsPlain b (c :: r)) (tail : List Char) :
    (c == ':' && endsWord (r ++ tail)) = false := by
  have hi := h.noIndicator
  simp only [Style.indicatorInside, Bool.or_eq_false_iff] at hi
  by_cases hr : r = []
  · have hc : (c == ':') = false := by simpa [hr, endsWord] using hi.1.1
    rw [hc, Bool.false_and]
  · rw [endsWord_append hr]
    exact hi.1.1

/-- A blank is followed by more of the text. -/
theorem tail_ne_nil (h : StandsPlain b (c :: r)) (hc : isBlank c = true) : r ≠ [] := by
  rintro rfl
  have := h.endsInWord c (by simp)
  rw [hc] at this
  cases this

theorem tail (h : StandsPlain b (c :: r)) (hr : r ≠ []) : StandsPlain (isBlank c) r := by
  have hi := h.noIndicator
  simp only [Style.indicatorInside, Bool.or_eq_false_iff] at hi
  refine ⟨fun d hd => h.noBreak d (by simp [hd]), ?_, fun d hd => h.endsInWord d ?_⟩
  · simpa [h.head_break] using hi.2
  · rwa [List.getLast?_cons_of_ne_nil hr]

end StandsPlain

/-! ### Reading -/

/-- One more character of a word. -/
theorem plainFrom_cons {indent : Nat} {acc gap : List Char} {inWord : Bool} {c : Char}
    {r : List Char} {line column : Nat} (hblank : isBlank c = false) (hbreak : isBreak c = false)
    (hcomment : (c == '#' && !inWord) = false) (hcolon : (c == ':' && endsWord r) = false)
    (hmark : column = 0 → startsDocumentMark (c :: r) = false) :
    plainFrom false indent acc (.blanks gap) inWord (c :: r) line column =
      plainFrom false indent (acc ++ gap ++ [c]) (.blanks []) true r line (column + 1) := by
  have hmark' : (column == 0 && startsDocumentMark (c :: r)) = false := by
    by_cases hz : column = 0 <;> simp [hz, hmark]
  rw [plainFrom]
  simp only [hblank, hbreak, hmark', hcolon, Gap.spansLines, Gap.text, Bool.false_eq_true, if_false,
    Bool.not_false, Bool.false_and, Bool.or_false, Bool.and_false]
  cases inWord <;> simp_all [Gap.none]

/-- A plain text is read to its end, whatever follows it. -/
theorem plainFrom_append {indent : Nat} {tail : List Char} :
    ∀ (s acc gap : List Char) (inWord : Bool) (line column : Nat), s ≠ [] →
      StandsPlain (!inWord) s → (column = 0 → startsDocumentMark (s ++ tail) = false) →
      plainFrom false indent acc (.blanks gap) inWord (s ++ tail) line column =
        plainFrom false indent (acc ++ gap ++ s) (.blanks []) true tail line (column + s.length)
  | [], _, _, _, _, _, hs, _, _ => absurd rfl hs
  | c :: r, acc, gap, inWord, line, column, _, h, hmark => by
      rw [List.cons_append] at hmark ⊢
      cases hblank : isBlank c with
      | true =>
          -- A blank joins the gap; since the text does not end in one, a word follows.
          have hr : r ≠ [] := h.tail_ne_nil hblank
          have ht : StandsPlain (!false) r := by simpa [hblank] using h.tail hr
          rw [plainFrom]
          simp only [hblank, Gap.spansLines, Gap.addBlank, if_true, Bool.false_eq_true, false_and,
            if_false]
          rw [plainFrom_append r acc (gap ++ [c]) false line (column + 1) hr ht (by simp)]
          simp [Nat.add_assoc, Nat.add_comm 1]
      | false =>
          rw [plainFrom_cons hblank h.head_break h.head_comment (h.head_colon tail) hmark]
          by_cases hr : r = []
          · simp [hr]
          · have ht : StandsPlain (!true) r := by simpa [hblank] using h.tail hr
            rw [plainFrom_append r (acc ++ gap ++ [c]) [] true line (column + 1) hr ht (by simp)]
            simp [Nat.add_assoc, Nat.add_comm 1]

/-- A plain text ends before a colon that ends a word. -/
theorem plain_colon {indent line column : Nat} {s r : List Char} (hs : s ≠ [])
    (h : StandsPlain true s) (hr : endsWord r = true)
    (hmark : column = 0 → startsDocumentMark (s ++ ':' :: r) = false) :
    plain false indent ⟨s ++ ':' :: r, line, column⟩ =
      .ok ⟨s, .blanks [], ⟨':' :: r, line, column + s.length⟩⟩ := by
  rw [plain, show Gap.none = .blanks [] from rfl,
    plainFrom_append s [] [] false line column hs h hmark, plainFrom]
  simp [isBlank, isBreak, hr]

/-- The indentation of the next line belongs to the gap. -/
theorem plainFrom_spaces {indent : Nat} {acc first more v : List Char} (n : Nat) :
    ∀ (line column : Nat),
      plainFrom false indent acc (.lines first more) false (Style.spaces n ++ v) line column =
        plainFrom false indent acc (.lines first more) false v line (column + n) := by
  induction n with
  | zero => intro line column; rfl
  | succ n ih =>
      intro line column
      rw [Style.spaces, List.replicate_succ, List.cons_append, plainFrom]
      simp only [isBlank, beq_self_eq_true, Bool.true_or, if_true, Gap.addBlank, Char.reduceEq,
        and_false, if_false]
      rw [← Style.spaces, ih line (column + 1)]
      simp [Nat.add_assoc, Nat.add_comm 1]

/-- A plain text ends at the end of its line, if the next one is not indented enough. -/
theorem plain_newline {indent line column n : Nat} {s v : List Char} (hs : s ≠ [])
    (h : StandsPlain true s) (hcolumn : 0 < column) (hv : IsOutset v) (hn : n < indent) :
    plain false indent ⟨s ++ '\n' :: (Style.spaces n ++ v), line, column⟩ =
      .ok ⟨s, .lines ['\n'] [], ⟨v, line + 1, n⟩⟩ := by
  -- The line end and the indentation of the next line make the gap behind the text.
  have hbreak : plainFrom false indent s (.blanks []) true ('\n' :: (Style.spaces n ++ v)) line
      (column + s.length) = plainFrom false indent s (.lines ['\n'] []) false v (line + 1) n := by
    rw [plainFrom]
    simp only [isBlank, isBreak, Char.reduceBEq, Bool.or_self, Bool.false_eq_true, if_false,
      Bool.true_or, if_true, Gap.addBreak]
    rw [plainFrom_spaces, Nat.zero_add]
  rw [plain, show Gap.none = .blanks [] from rfl,
    plainFrom_append s [] [] false line column hs h (by omega), List.nil_append, List.nil_append,
    hbreak]
  cases v with
  | nil => rfl
  | cons c r =>
      obtain ⟨hblank, hbrk, -, -⟩ := hv c (by simp)
      rw [plainFrom]
      simp [hblank, hbrk, Gap.spansLines, hn]

end RecordingIndex.Yaml
