import RecordingIndex.Proofs.Decimal.Digits
import RecordingIndex.Proofs.Yaml.Block
import RecordingIndex.Proofs.Yaml.Plain
import RecordingIndex.Proofs.Yaml.Quoted

/-!
# Proofs — Yaml — the style of a text suits it

The style that is chosen for a text keeps the text: what stands plainly has no indicator
(`standsPlain_of_allowsPlain`, `startsPlain_of_allowsPlain`), what stands in single quotes loses no
blank at a line end (`standsSingle_of_allowsSingle`), and what stands as a block can stand unescaped
(`of_suits`).  Names and numbers may stand plainly (`allowsPlain_of_letters`).  Whatever the style,
only characters that can stand unescaped are written (`isPrintable_of_mem_write`).
-/

namespace RecordingIndex.Yaml

/-! ### Plain texts -/

theorem isPrintable_of_needsEscapes {s : List Char} (h : Style.needsEscapes s = false) :
    ∀ c ∈ s, isPrintable c = true := by
  simp only [Style.needsEscapes, Bool.or_eq_false_iff, List.any_eq_false] at h
  simpa using h.1

theorem isPrintable_of_allowsPlain {s : List Char} (h : Style.allowsPlain s = true) :
    ∀ c ∈ s, isPrintable c = true := by
  simp only [Style.allowsPlain, Bool.and_eq_true, Bool.not_eq_true'] at h
  exact isPrintable_of_needsEscapes h.1.1.1

/-- Without an indicator at its start, a text has one inside only behind a blank or before one. -/
theorem indicatorInside_of_hasIndicator {s : List Char} (h : Style.hasIndicator s = false) :
    Style.indicatorInside true s = false := by
  cases s with
  | nil => rfl
  | cons c r =>
      rw [Style.hasIndicator] at h
      obtain ⟨h, hinside⟩ := Bool.or_eq_false_iff.mp h
      obtain ⟨h, hword⟩ := Bool.or_eq_false_iff.mp h
      obtain ⟨-, hind⟩ := Bool.or_eq_false_iff.mp h
      -- A hash is itself an indicator at the start.
      have hhash : (c == '#') = false := by
        refine beq_eq_false_iff_ne.mpr ?_
        rintro rfl
        cases hind
      rw [Style.indicatorInside, hinside, hhash]
      rcases Bool.and_eq_false_iff.mp hword with hc | hr
      · obtain ⟨hc, -⟩ := Bool.or_eq_false_iff.mp hc
        rw [(Bool.or_eq_false_iff.mp hc).2]
        rfl
      · rw [hr, Bool.and_false]
        rfl

/-- What may stand plainly stands plain. -/
theorem standsPlain_of_allowsPlain {s : List Char} (h : Style.allowsPlain s = true) :
    StandsPlain true s := by
  simp only [Style.allowsPlain, Style.atEdge, Bool.and_eq_true, Bool.not_eq_true',
    Bool.or_eq_false_iff, List.any_eq_false] at h
  obtain ⟨⟨⟨hesc, hind⟩, hbreak⟩, -, hlast⟩ := h
  refine ⟨by simpa using hbreak, indicatorInside_of_hasIndicator hind, ?_⟩
  intro c hc
  rw [Option.mem_def.mp hc, Option.any_some] at hlast
  have hp := isPrintable_of_needsEscapes hesc c (List.mem_of_getLast? hc)
  refine eq_false_of_ne_true ?_
  intro hblank
  rw [eq_space_of_isPrintable hp hblank] at hlast
  cases hlast

/-- The first character of a plain text starts no token of another kind, whatever follows it. -/
theorem startsPlain_of_allowsPlain {c : Char} {r : List Char}
    (h : Style.allowsPlain (c :: r) = true) (tail : List Char) :
    isBlank c = false ∧ isBreak c = false ∧ isIndicator c = false ∧
      ((c == '?' || c == ':' || c == '-') && endsWord (r ++ tail)) = false := by
  simp only [Style.allowsPlain, Style.atEdge, Bool.and_eq_true, Bool.not_eq_true',
    Bool.or_eq_false_iff, List.any_eq_false, List.head?_cons, Option.any_some] at h
  obtain ⟨⟨⟨hesc, hind⟩, hbreak⟩, hfirst, -⟩ := h
  have hblank : isBlank c = false := by
    refine eq_false_of_ne_true ?_
    intro hblank
    rw [eq_space_of_isPrintable (isPrintable_of_needsEscapes hesc c List.mem_cons_self) hblank]
      at hfirst
    cases hfirst
  rw [Style.hasIndicator] at hind
  obtain ⟨hind, -⟩ := Bool.or_eq_false_iff.mp hind
  obtain ⟨hind, hword⟩ := Bool.or_eq_false_iff.mp hind
  refine ⟨hblank, by simpa using hbreak c List.mem_cons_self, (Bool.or_eq_false_iff.mp hind).2, ?_⟩
  by_cases hr : r = []
  · rw [hr, endsWord, Bool.and_true] at hword
    rw [hword, Bool.false_and]
  · rwa [endsWord_append hr]

/-! ### Names and numbers -/

/-- A character that names and numbers are made of. -/
def IsLetter (c : Char) : Prop := isWordCharacter c = true ∧ c ≠ '-'

instance (c : Char) : Decidable (IsLetter c) :=
  inferInstanceAs (Decidable (isWordCharacter c = true ∧ c ≠ '-'))

instance (s : List Char) : Decidable (∀ c ∈ s, IsLetter c) := List.decidableBAll IsLetter s

theorem isAlphanum_iff {c : Char} :
    c.isAlphanum = true ↔
      ((65 ≤ c.toNat ∧ c.toNat ≤ 90) ∨ (97 ≤ c.toNat ∧ c.toNat ≤ 122)) ∨
        (48 ≤ c.toNat ∧ c.toNat ≤ 57) := by
  change ((decide (65 ≤ c.val ∧ c.val ≤ 90) || (decide (97 ≤ c.val) && decide (c.val ≤ 122))) ||
    (decide (48 ≤ c.val) && decide (c.val ≤ 57))) = true ↔ _
  simp only [Bool.or_eq_true, Bool.and_eq_true, decide_eq_true_eq]
  exact Iff.rfl

/-- The code points of digits, capitals, the underscore and small letters. -/
def IsLetterCode (n : Nat) : Prop :=
  (48 ≤ n ∧ n ≤ 57) ∨ (65 ≤ n ∧ n ≤ 90) ∨ n = 95 ∨ (97 ≤ n ∧ n ≤ 122)

instance (n : Nat) : Decidable (IsLetterCode n) :=
  inferInstanceAs (Decidable ((48 ≤ n ∧ n ≤ 57) ∨ (65 ≤ n ∧ n ≤ 90) ∨ n = 95 ∨ (97 ≤ n ∧ n ≤ 122)))

theorem IsLetter.code {c : Char} (h : IsLetter c) : IsLetterCode c.toNat := by
  obtain ⟨h, hdash⟩ := h
  simp only [isWordCharacter, Bool.or_eq_true, beq_iff_eq, isAlphanum_iff, hdash, or_false] at h
  rcases h with ((upper | lower) | digit) | rfl
  · exact .inr (.inl upper)
  · exact .inr (.inr (.inr lower))
  · exact .inl digit
  · exact .inr (.inr (.inl rfl))

/-- A letter can stand anywhere and divides nothing. -/
theorem IsLetter.plain {c : Char} (h : IsLetter c) :
    isPrintable c = true ∧ isBreak c = false ∧ Style.isSpace c = false ∧ isIndicator c = false ∧
      (c == ':') = false ∧ (c == '#') = false ∧ (c == '?') = false ∧ (c == '-') = false ∧
      (c == '.') = false := by
  have hne (d : Char) (hd : ¬IsLetterCode d.toNat) : (c == d) = false := by
    refine beq_eq_false_iff_ne.mpr ?_
    rintro rfl
    exact hd h.code
  have hprint : isPrintable c = true := by
    have : (decide (' ' ≤ c) && decide (c ≤ '~')) = true := by
      rw [Bool.and_eq_true, decide_eq_true_eq, decide_eq_true_eq]
      have hb := h.code
      rw [IsLetterCode] at hb
      have h₁ : 32 ≤ c.toNat := by omega
      have h₂ : c.toNat ≤ 126 := by omega
      exact ⟨h₁, h₂⟩
    simp [isPrintable, this]
  refine ⟨hprint, ?_, hne _ (by decide), ?_, hne _ (by decide), hne _ (by decide),
    hne _ (by decide), hne _ (by decide), hne _ (by decide)⟩
  · simp only [isBreak, hne '\n' (by decide), hne '\r' (by decide), hne '\u0085' (by decide),
      hne '\u2028' (by decide), hne '\u2029' (by decide), Bool.or_false]
  · refine eq_false_of_ne_true ?_
    intro hc
    -- The indicators are searched as numbers, so that their codes decide.
    have hmem : c ∈ "#,[]\x7b\x7d&*!|>'\"%@\x60".toList := List.contains_iff_mem.mp hc
    have hall : ∀ n ∈ "#,[]\x7b\x7d&*!|>'\"%@\x60".toList.map Char.toNat, ¬IsLetterCode n := by
      decide
    exact hall _ (List.mem_map_of_mem hmem) h.code

theorem adjacent_eq_false {p q : Char → Bool} :
    ∀ s : List Char, (∀ c ∈ s, p c = false) → Style.adjacent p q s = false
  | [],          _ => rfl
  | [_],         _ => rfl
  | c :: d :: r, h => by
      rw [Style.adjacent, h c List.mem_cons_self, Bool.false_and, Bool.false_or]
      exact adjacent_eq_false (d :: r) fun e he => h e (List.mem_cons_of_mem c he)

theorem indicatorInside_of_letters :
    ∀ (s : List Char) (b : Bool), (∀ c ∈ s, IsLetter c) → Style.indicatorInside b s = false
  | [],     _, _ => rfl
  | c :: r, b, h => by
      obtain ⟨-, -, -, -, hcolon, hhash, -⟩ := (h c List.mem_cons_self).plain
      rw [Style.indicatorInside, hcolon, hhash, Bool.false_and, Bool.false_and, Bool.false_or,
        Bool.false_or]
      exact indicatorInside_of_letters r _ fun d hd => h d (List.mem_cons_of_mem c hd)

/-- **Names and numbers** may stand plainly. -/
theorem allowsPlain_of_letters {s : List Char} (h : ∀ c ∈ s, IsLetter c) :
    Style.allowsPlain s = true := by
  have hspace : ∀ c ∈ s, Style.isSpace c = false := fun c hc => (h c hc).plain.2.2.1
  have hesc : Style.needsEscapes s = false := by
    rw [Style.needsEscapes, adjacent_eq_false s hspace, Bool.or_false, List.any_eq_false]
    intro c hc
    simp [(h c hc).plain.1]
  have hbreak : s.any isBreak = false := by
    rw [List.any_eq_false]
    intro c hc
    simp [(h c hc).plain.2.1]
  have hedge : Style.atEdge Style.isSpace s = false := by
    rw [Style.atEdge, Bool.or_eq_false_iff, Option.any_eq_false, Option.any_eq_false]
    refine ⟨fun c hc => ?_, fun c hc => ?_⟩
    · simp [hspace c (List.mem_of_mem_head? hc)]
    · simp [hspace c (List.mem_of_getLast? hc)]
  have hind : Style.hasIndicator s = false := by
    cases s with
    | nil => rfl
    | cons c r =>
        obtain ⟨-, -, -, hi, hcolon, -, hquestion, hdash, hdot⟩ := (h c List.mem_cons_self).plain
        have hprefix (d : Char) (w : List Char) (hd : (c == d) = false) :
            (d :: w).isPrefixOf (c :: r) = false := by
          rw [List.isPrefixOf_cons_cons, Bool.beq_comm, hd, Bool.false_and]
        rw [Style.hasIndicator, hi, hcolon, hquestion, hdash,
          show "---".toList = ['-', '-', '-'] from rfl,
          show "...".toList = ['.', '.', '.'] from rfl, hprefix _ _ hdash, hprefix _ _ hdot]
        exact indicatorInside_of_letters r _ fun d hd => h d (List.mem_cons_of_mem c hd)
  simp [Style.allowsPlain, hesc, hind, hbreak, hedge]

theorem isLetter_of_isDigit {base : Nat} (hbase : base ≤ 16) {c : Char}
    (h : Decimal.isDigit base c = true) : IsLetter c := by
  have hvalue : Decimal.digitValue c < 16 :=
    Nat.lt_of_lt_of_le (of_decide_eq_true h) hbase
  have hbounds : (48 ≤ c.toNat ∧ c.toNat ≤ 57) ∨ (97 ≤ c.toNat ∧ c.toNat ≤ 102) ∨
      (65 ≤ c.toNat ∧ c.toNat ≤ 70) := by
    unfold Decimal.digitValue at hvalue
    split at hvalue
    · next h => exact .inl h
    · split at hvalue
      · next h => exact .inr (.inl h)
      · split at hvalue
        · next h => exact .inr (.inr h)
        · omega
  constructor
  · have hletter : c.isAlphanum = true := by
      rw [isAlphanum_iff]
      rcases hbounds with h | ⟨h₁, h₂⟩ | ⟨h₁, h₂⟩
      · exact .inr h
      · exact .inl (.inr ⟨h₁, Nat.le_trans h₂ (by decide)⟩)
      · exact .inl (.inl ⟨h₁, Nat.le_trans h₂ (by decide)⟩)
    rw [isWordCharacter, hletter]
    rfl
  · rintro rfl
    revert hbounds
    decide

/-! ### The chosen style -/

/-- What the choice of a style promises about a text. -/
def Style.Suits (s : List Char) : Style → Prop
  | .plain   => s ≠ [] ∧ Style.allowsPlain s = true
  | .single  => StandsSingle .none s
  | .double  => True
  | .literal => s ≠ [] ∧ ∀ c ∈ s, isPrintable c = true

theorem standsSingle_of_allowsSingle {s : List Char} (h : Style.allowsSingle s = true)
    (hs : '\n' ∉ s) : StandsSingle .none s := by
  simp only [Style.allowsSingle, Bool.and_eq_true, Bool.not_eq_true'] at h
  obtain ⟨hesc, hadj⟩ := h
  refine ⟨isPrintable_of_needsEscapes hesc, hs, ?_, hadj, .inl rfl⟩
  exact (Bool.or_eq_false_iff.mp hesc).2

theorem suits_quotes {s : List Char} (hs : '\n' ∉ s) :
    Style.Suits s (if Style.allowsSingle s then .single else .double) := by
  split
  · next h => exact standsSingle_of_allowsSingle h hs
  · trivial

theorem suits_literal {s : List Char} (hs : '\n' ∈ s) :
    Style.Suits s (if Style.allowsLiteral s then .literal else .double) := by
  split
  · next h =>
      rw [Style.allowsLiteral, Bool.and_eq_true, Bool.not_eq_true'] at h
      exact ⟨List.ne_nil_of_mem hs, isPrintable_of_needsEscapes h.1⟩
  · trivial

/-- **The chosen style** suits the text. -/
theorem of_suits (s : List Char) : Style.Suits s (Style.of s) := by
  rw [Style.of, Style.wished]
  cases hnewline : s.contains '\n' with
  | true => exact suits_literal (by simpa using hnewline)
  | false =>
      have hs : '\n' ∉ s := by simpa using hnewline
      cases hread : Style.readsAsItself s with
      | false => exact suits_quotes hs
      | true =>
          show Style.Suits s (if Style.allowsPlain s then .plain else _)
          split
          · next h =>
              refine ⟨?_, h⟩
              rintro rfl
              cases hread
          · exact suits_quotes hs

/-! ### The characters that are written -/

theorem isPrintable_of_mem_spaces {n : Nat} {c : Char} (h : c ∈ Style.spaces n) :
    isPrintable c = true := by
  rw [List.eq_of_mem_replicate h]
  rfl

theorem isPrintable_of_mem_singleBody {n : Nat} :
    ∀ {s : List Char} {atStart : Bool} {c : Char}, (∀ d ∈ s, isPrintable d = true) →
      c ∈ Style.singleBody n atStart s → isPrintable c = true
  | [],     atStart, c, _, hc => by
      cases atStart with
      | true => exact isPrintable_of_mem_spaces hc
      | false => cases hc
  | d :: r, atStart, c, h, hc => by
      have hr : ∀ e ∈ r, isPrintable e = true := fun e he => h e (List.mem_cons_of_mem d he)
      rw [Style.singleBody] at hc
      split at hc
      · rcases List.mem_cons.mp hc with rfl | hc
        · exact h c List.mem_cons_self
        · exact isPrintable_of_mem_singleBody hr hc
      · rcases List.mem_append.mp hc with hc | hc
        · rcases List.mem_append.mp hc with hc | hc
          · split at hc
            · exact isPrintable_of_mem_spaces hc
            · cases hc
          · have hd := h d List.mem_cons_self
            split at hc <;> simp only [List.mem_cons, List.not_mem_nil, or_false, or_self] at hc
            · rw [hc]
              rfl
            · rwa [hc]
        · exact isPrintable_of_mem_singleBody hr hc

theorem isPrintable_of_mem_literalBody {n : Nat} :
    ∀ {s : List Char} {atStart : Bool} {c : Char}, (∀ d ∈ s, isPrintable d = true) →
      c ∈ Style.literalBody n atStart s → isPrintable c = true
  | d :: r, atStart, c, h, hc => by
      have hr : ∀ e ∈ r, isPrintable e = true := fun e he => h e (List.mem_cons_of_mem d he)
      rw [Style.literalBody] at hc
      split at hc
      · rcases List.mem_cons.mp hc with rfl | hc
        · exact h c List.mem_cons_self
        · exact isPrintable_of_mem_literalBody hr hc
      · rcases List.mem_append.mp hc with hc | hc
        · split at hc
          · exact isPrintable_of_mem_spaces hc
          · cases hc
        · rcases List.mem_cons.mp hc with rfl | hc
          · exact h c List.mem_cons_self
          · exact isPrintable_of_mem_literalBody hr hc

theorem isPrintable_of_mem_escaped {c d : Char} (h : d ∈ Style.escaped c) :
    isPrintable d = true := by
  have hdigits (w n : Nat) (hd : d ∈ Decimal.hexadecimal w n) : isPrintable d = true :=
    (isLetter_of_isDigit (Nat.le_refl 16) (Decimal.isDigit_of_mem_hexadecimal hd)).plain.1
  -- The three widths of a code point are written in the same way.
  have hpoint (l : Char) (w : Nat) (hl : isPrintable l = true)
      (hd : d ∈ '\\' :: l :: Decimal.hexadecimal w c.toNat) : isPrintable d = true := by
    rcases List.mem_cons.mp hd with rfl | hd
    · rfl
    · rcases List.mem_cons.mp hd with rfl | hd
      · exact hl
      · exact hdigits w _ hd
  unfold Style.escaped at h
  split at h
  · next l hl =>
      have hletter : isPrintable l = true := by
        unfold Style.escapeLetter? at hl
        split at hl <;> cases hl <;> rfl
      rcases List.mem_cons.mp h with rfl | h
      · rfl
      · rwa [List.mem_singleton.mp h]
  · split at h
    · next hc => rwa [List.mem_singleton.mp h]
    · split at h
      · exact hpoint 'x' 2 rfl h
      · split at h
        · exact hpoint 'u' 4 rfl h
        · exact hpoint 'U' 8 rfl h

theorem isPrintable_of_mem_literalHeading {s : List Char} {c : Char}
    (h : c ∈ Style.literalHeading s) : isPrintable c = true := by
  obtain ⟨depth, ch, -, -, -, hheading⟩ := literalHeading_eq s
  rw [hheading] at h
  rcases List.mem_cons.mp h with rfl | h
  · rfl
  · have hmarks : (depthMark depth ++ ch.mark).all isPrintable = true := by
      cases depth <;> cases ch <;> rfl
    exact List.all_eq_true.mp hmarks c h

/-- **Only characters that can stand unescaped** are written. -/
theorem isPrintable_of_mem_write {n : Nat} {s : List Char} {c : Char} (h : c ∈ Style.write n s) :
    isPrintable c = true := by
  -- Both quotes stand around a body and before a line end.
  have hquote {q : Char} {body : List Char} (hq : isPrintable q = true)
      (hbody : ∀ d ∈ body, isPrintable d = true) (h : c ∈ q :: body ++ [q, '\n']) :
      isPrintable c = true := by
    simp only [List.cons_append, List.mem_cons, List.mem_append, List.not_mem_nil, or_false] at h
    rcases h with rfl | h | rfl | rfl
    · exact hq
    · exact hbody c h
    · exact hq
    · rfl
  have hsuits := of_suits s
  unfold Style.write at h
  cases hstyle : Style.of s with
  | plain =>
      simp only [hstyle] at h hsuits
      rcases List.mem_append.mp h with h | h
      · exact isPrintable_of_allowsPlain hsuits.2 c h
      · rw [List.mem_singleton.mp h]
        rfl
  | single =>
      simp only [hstyle] at h hsuits
      exact hquote rfl (fun d hd => isPrintable_of_mem_singleBody hsuits.printable hd) h
  | double =>
      simp only [hstyle] at h
      refine hquote rfl (fun d hd => ?_) h
      obtain ⟨e, -, hd⟩ := List.mem_flatMap.mp hd
      exact isPrintable_of_mem_escaped hd
  | literal =>
      simp only [hstyle] at h hsuits
      rcases List.mem_append.mp h with h | h
      · rcases List.mem_append.mp h with h | h
        · exact isPrintable_of_mem_literalHeading h
        · rcases List.mem_cons.mp h with rfl | h
          · rfl
          · exact isPrintable_of_mem_literalBody hsuits.2 h
      · split at h
        · cases h
        · rw [List.mem_singleton.mp h]
          rfl

end RecordingIndex.Yaml
