import RecordingIndex.Proofs.Decimal.Digits
import RecordingIndex.Proofs.Yaml.Character
import RecordingIndex.Yaml.Token.Quoted

/-!
# Proofs — Yaml — quoted texts are read back

Between single quotes a text keeps its characters, a quote apart, and every line end of it is
followed by an indentation that the reader drops (`singleQuoted_body`).  Between double quotes each
character is written so that the reader takes it back from what it stands as, whatever follows
(`doubleFrom_escaped`), and so is the whole text (`doubleQuoted_body`).
-/

namespace RecordingIndex.Yaml

/-! ### Single quotes -/

theorem isMarkLine_eq_false {column : Nat} {cs : List Char}
    (h : column = 0 → startsDocumentMark cs = false) : isMarkLine column cs = false := by
  unfold isMarkLine
  by_cases hc : column = 0 <;> simp [hc, h]

theorem Gap.text_lines {f m : List Char} (h : f ≠ ['\n']) : Gap.text (.lines f m) = f ++ m := by
  unfold Gap.text
  split <;> simp_all

/-- The indentation of a line between quotes belongs to the gap before it. -/
theorem singleFrom_spaces {acc f m r : List Char} (n : Nat) :
    ∀ (line column : Nat),
      singleFrom acc (.lines f m) (Style.spaces n ++ r) line column =
        singleFrom acc (.lines f m) r line (column + n) := by
  induction n with
  | zero => intro line column; rfl
  | succ n ih =>
      intro line column
      -- A line that starts with a space is no document mark.
      have hmark : isMarkLine column (' ' :: (List.replicate n ' ' ++ r)) = false :=
        isMarkLine_eq_false fun _ => startsDocumentMark_of_head (by decide) (by decide)
      rw [Style.spaces, List.replicate_succ, List.cons_append, singleFrom]
      · simp only [hmark, isBlank, beq_self_eq_true, Bool.true_or, Bool.false_eq_true, if_false,
          if_true, Gap.addBlank]
        rw [← Style.spaces, ih line (column + 1)]
        simp [Nat.add_assoc, Nat.add_comm 1]
      · simp
      · simp

theorem adjacent_tail {p q : Char → Bool} {c : Char} {r : List Char}
    (h : Style.adjacent p q (c :: r) = false) : Style.adjacent p q r = false := by
  cases r with
  | nil => rfl
  | cons d r =>
      simp only [Style.adjacent, Bool.or_eq_false_iff] at h
      exact h.2

theorem adjacent_head {p q : Char → Bool} {c : Char} {r : List Char}
    (h : Style.adjacent p q (c :: r) = false) (hc : p c = true) : ∀ d ∈ r.head?, q d = false := by
  cases r with
  | nil => simp
  | cons d r =>
      simp only [Style.adjacent, Bool.or_eq_false_iff, hc, Bool.true_and] at h
      simpa using h.1

/-- A gap that single quotes keep before `s`: no blanks before a line end, and behind a line end, no
line feed, no space. -/
def Gap.Keeps (s : List Char) : Gap → Prop
  | .blanks t  => t = [] ∨ ∀ c ∈ s.head?, isBreak c = false
  | .lines f _ => f ≠ ['\n'] ∧ ∀ c ∈ s.head?, c ≠ ' '

/-- A text that single quotes keep behind a gap. -/
structure StandsSingle (gap : Gap) (s : List Char) : Prop where
  printable    : ∀ c ∈ s, isPrintable c = true
  noNewline    : '\n' ∉ s
  noSpaceBreak : Style.adjacent Style.isSpace isBreak s = false
  noBreakSpace : Style.adjacent isBreak Style.isSpace s = false
  keeps        : gap.Keeps s

namespace StandsSingle

variable {gap : Gap} {c : Char} {r : List Char}

/-- What is left of the text behind its first character, whatever gap is kept before that. -/
theorem tail (h : StandsSingle gap (c :: r)) {gap' : Gap} (h' : gap'.Keeps r) :
    StandsSingle gap' r :=
  ⟨fun d hd => h.printable d (by simp [hd]), fun hn => h.noNewline (by simp [hn]),
    adjacent_tail h.noSpaceBreak, adjacent_tail h.noBreakSpace, h'⟩

/-- A line end extends a gap without changing what stood in it. -/
theorem addBreak (h : StandsSingle gap (c :: r)) (hc : isBreak c = true) :
    (gap.addBreak c).spansLines = true ∧ (gap.addBreak c).Keeps r ∧
      (gap.addBreak c).text = gap.text ++ [c] := by
  have hn : c ≠ '\n' := fun e => h.noNewline (by simp [e])
  have hsp : ∀ d ∈ r.head?, d ≠ ' ' := by
    intro d hd
    simpa [Style.isSpace] using adjacent_head h.noBreakSpace hc d hd
  cases gap with
  | blanks t =>
      -- Blanks before a line end would be lost, but none are kept there.
      have ht : t = [] := h.keeps.resolve_right fun hk => by simp [hc] at hk
      refine ⟨rfl, ⟨by simp [hn], hsp⟩, ?_⟩
      rw [Gap.addBreak, Gap.text_lines (by simp [hn]), ht, Gap.text]
      rfl
  | lines f m =>
      -- Only a single line feed is folded into a space; the gap starts with another line end.
      refine ⟨rfl, ⟨h.keeps.1, hsp⟩, ?_⟩
      rw [Gap.addBreak, Gap.text_lines h.keeps.1, Gap.text_lines h.keeps.1, List.append_assoc]

/-- A space extends the blanks of a gap. -/
theorem addSpace (h : StandsSingle gap (' ' :: r)) :
    (gap.addBlank ' ').spansLines = false ∧ (gap.addBlank ' ').Keeps r ∧
      (gap.addBlank ' ').text = gap.text ++ [' '] := by
  cases gap with
  | blanks t => exact ⟨rfl, .inr (adjacent_head h.noSpaceBreak rfl), rfl⟩
  | lines f m => exact absurd rfl (h.keeps.2 ' ' (by simp))

end StandsSingle

/-- A character that is no quote, on a line that is no document mark. -/
theorem singleFrom_cons {acc r : List Char} {gap : Gap} {c : Char} {line column : Nat}
    (hc : c ≠ '\'') (hmark : column = 0 → startsDocumentMark (c :: r) = false) :
    singleFrom acc gap (c :: r) line column =
      if isBlank c then singleFrom acc (gap.addBlank c) r line (column + 1)
      else if isBreak c then singleFrom acc (gap.addBreak c) r (line + 1) 0
      else singleFrom (acc ++ gap.text ++ [c]) .none r line (column + 1) := by
  rw [singleFrom]
  · rw [isMarkLine_eq_false hmark]
    rfl
  · rintro r rfl; exact absurd rfl hc
  · exact fun e => absurd e hc

/-- Behind the indentation of a line, if there is one, a reader is not at the start of a line. -/
theorem singleFrom_margin {indent : Nat} (hindent : 0 < indent) (acc r : List Char) {gap : Gap}
    (line : Nat) {column : Nat} (hcolumn : gap.spansLines = false → 0 < column) :
    ∃ column', 0 < column' ∧
      singleFrom acc gap ((if gap.spansLines then Style.spaces indent else []) ++ r) line column =
        singleFrom acc gap r line column' := by
  cases gap with
  | blanks t => exact ⟨column, hcolumn rfl, rfl⟩
  | lines f m =>
      refine ⟨column + indent, by omega, ?_⟩
      rw [Gap.spansLines, if_pos rfl, singleFrom_spaces]

/-- A text in single quotes is read back behind the gap `gap`. -/
theorem singleFrom_body {indent : Nat} (hindent : 0 < indent) {tail : List Char}
    (htail : tail.head? ≠ some '\'') :
    ∀ (s acc : List Char) (gap : Gap) (line column : Nat), StandsSingle gap s →
      (gap.spansLines = false → 0 < column) →
      ∃ line' column', line ≤ line' ∧
        singleFrom acc gap (Style.singleBody indent gap.spansLines s ++ '\'' :: tail) line column =
          .ok (acc ++ gap.text ++ s, ⟨tail, line', column'⟩)
  | [], acc, gap, line, column, _, hcolumn => by
      obtain ⟨column', -, hmargin⟩ := singleFrom_margin hindent acc ('\'' :: tail) line
        hcolumn
      refine ⟨line, column' + 1, Nat.le_refl _, ?_⟩
      rw [Style.singleBody, hmargin, List.append_nil, singleFrom]
      rintro r rfl
      exact htail rfl
  | c :: r, acc, gap, line, column, h, hcolumn => by
      have hp : isPrintable c = true := h.printable c (by simp)
      cases hbreak : isBreak c with
      | true =>
          -- A line end joins the gap, and the next character stands behind an indentation.
          obtain ⟨hspans, hkeeps, htext⟩ := h.addBreak hbreak
          have hq : c ≠ '\'' := by rintro rfl; cases hbreak
          obtain ⟨line', column', hle, ih⟩ := singleFrom_body hindent htail r acc (gap.addBreak c)
            (line + 1) 0 (h.tail hkeeps) (by simp [hspans])
          refine ⟨line', column', by omega, ?_⟩
          rw [Style.singleBody, if_pos hbreak, List.cons_append,
            singleFrom_cons hq fun _ => startsDocumentMark_of_isBreak hbreak,
            isBlank_eq_false_of_isBreak hbreak, if_neg (by simp), if_pos hbreak]
          rw [hspans] at ih
          simpa [htext] using ih
      | false =>
          obtain ⟨column₁, hcolumn₁, hmargin⟩ := singleFrom_margin hindent acc
            ((if c = '\'' then ['\'', '\''] else [c]) ++
              (Style.singleBody indent false r ++ '\'' :: tail)) line hcolumn
          rw [Style.singleBody, if_neg (by simp [hbreak]), List.append_assoc, List.append_assoc,
            hmargin]
          cases hblank : isBlank c with
          | true =>
              obtain rfl := eq_space_of_isPrintable hp hblank
              -- A space joins the gap, which is no line end.
              obtain ⟨hspans, hkeeps, htext⟩ := h.addSpace
              obtain ⟨line', column', hle, ih⟩ := singleFrom_body hindent htail r acc
                (gap.addBlank ' ') line (column₁ + 1) (h.tail hkeeps) (by simp)
              refine ⟨line', column', hle, ?_⟩
              rw [hspans] at ih
              rw [if_neg (by decide), List.singleton_append, singleFrom_cons (by decide) (by omega),
                hblank, if_pos rfl, ih, htext]
              simp
          | false =>
              have hkeeps : Gap.none.Keeps r := .inl rfl
              -- Any other character ends the gap; a quote is written twice.
              by_cases hq : c = '\''
              · obtain ⟨line', column', hle, ih⟩ := singleFrom_body hindent htail r
                  (acc ++ gap.text ++ ['\'']) .none line (column₁ + 2) (h.tail hkeeps) (by simp)
                refine ⟨line', column', hle, ?_⟩
                rw [if_pos hq, List.cons_append, List.singleton_append, singleFrom, hq]
                simpa [Gap.none, Gap.text, Gap.spansLines] using ih
              · obtain ⟨line', column', hle, ih⟩ := singleFrom_body hindent htail r
                  (acc ++ gap.text ++ [c]) .none line (column₁ + 1) (h.tail hkeeps) (by simp)
                refine ⟨line', column', hle, ?_⟩
                rw [if_neg hq, List.singleton_append, singleFrom_cons hq (by omega), hblank, hbreak]
                simpa [Gap.none, Gap.text, Gap.spansLines] using ih

/-- What is written between single quotes is read back as the text. -/
theorem singleQuoted_body {indent : Nat} {s tail : List Char} (line column : Nat)
    (hindent : 0 < indent) (htail : tail.head? ≠ some '\'') (h : StandsSingle .none s) :
    ∃ line' column', line ≤ line' ∧
      singleQuoted ⟨'\'' :: (Style.singleBody indent false s ++ '\'' :: tail), line, column⟩ =
        .ok (s, ⟨tail, line', column'⟩) :=
  singleFrom_body hindent htail s [] .none line (column + 1) h (by simp)

/-! ### Double quotes -/

/-- The letter of an escape is read as the character that it was written for. -/
theorem escapeOf?_of_escapeLetter? {c l : Char} (h : Style.escapeLetter? c = some l) :
    escapeOf? l = some c ∧ isBreak l = false := by
  unfold Style.escapeLetter? at h
  split at h <;> cases h <;> exact ⟨rfl, rfl⟩

/-- A character without a letter has no meaning of its own between double quotes. -/
theorem plain_of_escapeLetter?_eq_none {c : Char} (h : Style.escapeLetter? c = none) :
    c ≠ '"' ∧ c ≠ '\\' ∧ isBreak c = false := by
  have hbreak : isBreak c ≠ true := by
    intro hb
    simp only [isBreak, Bool.or_eq_true, beq_iff_eq] at hb
    rcases hb with (((rfl | rfl) | rfl) | rfl) | rfl <;> cases h
  refine ⟨?_, ?_, eq_false_of_ne_true hbreak⟩ <;> (rintro rfl; cases h)

/-- A backslash leads to an escape. -/
theorem doubleFrom_backslash {acc r : List Char} {gap : Gap} {line column : Nat} (h : 0 < column) :
    doubleFrom acc gap .text ('\\' :: r) line column =
      doubleFrom acc gap .escape r line (column + 1) := by
  rw [doubleFrom, isMarkLine_eq_false (by omega)]
  rfl

/-- The digits of an escape are read as the character of their value. -/
theorem doubleFrom_digits (acc r : List Char) (gap : Gap) (line : Nat) {d : Char} :
    ∀ (ds : List Char) (v column : Nat), ds ≠ [] → (∀ c ∈ ds, Decimal.isDigit 16 c = true) →
      scalar? (ds.foldl (fun n c => n * 16 + Decimal.digitValue c) v) = some d →
      doubleFrom acc gap (.digits ds.length v) (ds ++ r) line column =
        doubleFrom (acc ++ gap.text ++ [d]) .none .text r line (column + ds.length)
  | [], _, _, h, _, _ => absurd rfl h
  | c :: ds, v, column, _, hdigits, hvalue => by
      have hc : Decimal.isDigit 16 c = true := hdigits c (by simp)
      have hds : ∀ e ∈ ds, Decimal.isDigit 16 e = true := fun e he => hdigits e (by simp [he])
      rw [List.cons_append, doubleFrom, hc, if_neg (by simp)]
      -- The last digit gives the character, the others go into the number.
      by_cases hnil : ds = []
      · subst hnil
        rw [List.foldl_cons, List.foldl_nil] at hvalue
        rw [if_neg (by simp), hvalue]
        rfl
      · have hlen : 1 < (c :: ds).length := by
          have := List.length_pos_iff.mpr hnil
          simp only [List.length_cons]
          omega
        rw [if_pos hlen, List.length_cons, Nat.add_sub_cancel,
          doubleFrom_digits acc r gap line ds _ (column + 1) hnil hds (by simpa using hvalue)]
        simp [Nat.add_assoc, Nat.add_comm 1]

/-- A character that cannot stand for itself and has no letter is written by its code point. -/
theorem escaped_codePoint {c : Char} (hl : Style.escapeLetter? c = none)
    (hp : isPrintable c = false) :
    ∃ l width, Style.escaped c = '\\' :: l :: Decimal.hexadecimal width c.toNat ∧
      escapeOf? l = none ∧ escapeWidth? l = some width ∧ isBreak l = false ∧ 0 < width ∧
      c.toNat < Nat.pow 16 width := by
  have hmax : c.toNat < 0x110000 := by
    rcases c.valid with h | h
    · exact Nat.lt_trans h (by decide)
    · exact h.2
  by_cases h₁ : c.toNat ≤ 0xFF
  · refine ⟨'x', 2, ?_, rfl, rfl, rfl, by omega, Nat.lt_of_le_of_lt h₁ (by decide)⟩
    simp [Style.escaped, hl, hp, h₁]
  by_cases h₂ : c.toNat ≤ 0xFFFF
  · refine ⟨'u', 4, ?_, rfl, rfl, rfl, by omega, Nat.lt_of_le_of_lt h₂ (by decide)⟩
    simp [Style.escaped, hl, hp, h₁, h₂]
  · refine ⟨'U', 8, ?_, rfl, rfl, rfl, by omega, Nat.lt_trans hmax (by decide)⟩
    simp [Style.escaped, hl, hp, h₁, h₂]

/-- A character is read back from an escape by its code point. -/
theorem doubleFrom_codePoint {acc r : List Char} {gap : Gap} {line column width : Nat} {c l : Char}
    (hl : escapeOf? l = none) (hw : escapeWidth? l = some width) (hb : isBreak l = false)
    (hwidth : 0 < width) (hc : c.toNat < Nat.pow 16 width) (hcolumn : 0 < column) :
    doubleFrom acc gap .text ('\\' :: l :: (Decimal.hexadecimal width c.toNat ++ r)) line column =
      doubleFrom (acc ++ gap.text ++ [c]) .none .text r line (column + 2 + width) := by
  have hlen := Decimal.length_hexadecimal hwidth hc
  have hne : Decimal.hexadecimal width c.toNat ≠ [] := List.ne_nil_of_length_pos (by omega)
  have hvalue : scalar? ((Decimal.hexadecimal width c.toNat).foldl
      (fun n c => n * 16 + Decimal.digitValue c) 0) = some c := by
    have hvalid : c.toNat.isValidChar := c.valid
    rw [show List.foldl _ 0 _ = c.toNat from Decimal.value_hexadecimal width c.toNat, scalar?,
      if_pos hvalid, Char.ofNat_toNat]
  have hdigits := doubleFrom_digits acc r gap line _ 0 (column + 2) hne
    (fun _ => Decimal.isDigit_of_mem_hexadecimal) hvalue
  rw [hlen] at hdigits
  rw [doubleFrom_backslash hcolumn, doubleFrom, hb, if_neg (by simp), hl, hw]
  exact hdigits

/-- **A character between double quotes** is read back from what it is written as. -/
theorem doubleFrom_escaped (acc t r : List Char) (c : Char) (line : Nat) {column : Nat}
    (h : 0 < column) :
    ∃ column' acc' t', 0 < column' ∧ acc' ++ t' = acc ++ t ++ [c] ∧
      doubleFrom acc (.blanks t) .text (Style.escaped c ++ r) line column =
        doubleFrom acc' (.blanks t') .text r line column' := by
  cases hletter : Style.escapeLetter? c with
  | some l =>
      obtain ⟨hl, hb⟩ := escapeOf?_of_escapeLetter? hletter
      refine ⟨column + 1 + 1, acc ++ t ++ [c], [], by omega, List.append_nil _, ?_⟩
      rw [Style.escaped, hletter, List.cons_append, doubleFrom_backslash h, List.singleton_append,
        doubleFrom, hb, if_neg (by simp), hl]
      rfl
  | none =>
      by_cases hp : isPrintable c = true
      · obtain ⟨hquote, hslash, hb⟩ := plain_of_escapeLetter?_eq_none hletter
        rw [Style.escaped, hletter, if_pos hp, List.singleton_append, doubleFrom,
          isMarkLine_eq_false (by omega)]
        cases hblank : isBlank c with
        | true =>
            refine ⟨column + 1, acc, t ++ [c], by omega, (List.append_assoc ..).symm, ?_⟩
            simp [hquote, hslash, Gap.addBlank]
        | false =>
            refine ⟨column + 1, acc ++ t ++ [c], [], by omega, List.append_nil _, ?_⟩
            simp [hquote, hslash, hb, Gap.text, Gap.none]
      · obtain ⟨l, width, hwritten, hl, hw, hb, hwidth, hc⟩ :=
          escaped_codePoint hletter (eq_false_of_ne_true hp)
        refine ⟨column + 2 + width, acc ++ t ++ [c], [], by omega, List.append_nil _, ?_⟩
        rw [hwritten]
        exact doubleFrom_codePoint hl hw hb hwidth hc h

/-- A text in double quotes is read back behind the blanks `t`. -/
theorem doubleFrom_body (tail : List Char) (line : Nat) :
    ∀ (s acc t : List Char) (column : Nat), 0 < column →
      ∃ column', doubleFrom acc (.blanks t) .text (s.flatMap Style.escaped ++ '"' :: tail) line
        column = .ok (acc ++ t ++ s, ⟨tail, line, column'⟩)
  | [], acc, t, column, h => by
      refine ⟨column + 1, ?_⟩
      rw [List.flatMap_nil, List.nil_append, doubleFrom, isMarkLine_eq_false (by omega)]
      simp [Gap.text]
  | c :: r, acc, t, column, h => by
      obtain ⟨column₁, acc', t', hcolumn₁, hread, hstep⟩ := doubleFrom_escaped acc t
        (r.flatMap Style.escaped ++ '"' :: tail) c line h
      obtain ⟨column', ih⟩ := doubleFrom_body tail line r acc' t' column₁ hcolumn₁
      refine ⟨column', ?_⟩
      rw [List.flatMap_cons, List.append_assoc, hstep, ih, hread]
      simp

/-- What is written between double quotes is read back as the text. -/
theorem doubleQuoted_body (line column : Nat) (s tail : List Char) :
    ∃ column', doubleQuoted ⟨'"' :: (s.flatMap Style.escaped ++ '"' :: tail), line, column⟩ =
      .ok (s, ⟨tail, line, column'⟩) :=
  doubleFrom_body tail line s [] [] (column + 1) (by omega)

end RecordingIndex.Yaml
