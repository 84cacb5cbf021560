import RecordingIndex.Proofs.Yaml.Character
import RecordingIndex.Yaml.Token.Block

/-!
# Proofs — Yaml — literal blocks are read back

What a reader has of a block (`BlockText.all`) grows by exactly the characters of the text that is
written (`blockFrom_body`): each line stands at the depth that the heading gives or the first line
shows, and an empty line stands as it is.  The mark in the heading keeps as many line ends as the
text has (`Chomping.Fits`).  `block_literal` puts the heading and the lines together.
-/

namespace RecordingIndex.Yaml

/-! ### What has been read -/

namespace BlockText

/-- All that has been read, line ends included. -/
def all (b : BlockText) : List Char := b.text ++ b.ending ++ b.empty

/-- `b` is what a reader has behind the text `q`, at the start of a line or in it.  A line end
directly behind a character is not one of an empty line. -/
structure Behind (atStart : Bool) (q : List Char) (b : BlockText) : Prop where
  all     : b.all = q
  inLine  : atStart = false → b.ending = [] ∧ b.empty = []
  atBreak : atStart = true → ∀ c ∈ q.getLast?, isBreak c = true
  clipped : ∀ p c d, q = p ++ [c, d] → isBreak c = false → isBreak d = true → b.empty = []

namespace Behind

variable {q : List Char} {b : BlockText} {c : Char}

theorem start : Behind true [] .start := ⟨rfl, by simp, by simp, fun _ _ _ _ _ _ => rfl⟩

/-- The end of a line. -/
theorem lineEnd (h : Behind false q b) (hc : isBreak c = true) :
    Behind true (q ++ [c]) { b with ending := [c] } := by
  obtain ⟨h₁, h₂⟩ := h.inLine rfl
  refine ⟨?_, by simp, by simp [hc], fun _ _ _ _ _ _ => h₂⟩
  rw [← h.all, BlockText.all, BlockText.all, h₁, h₂]
  simp

/-- The end of an empty line. -/
theorem emptyLine (h : Behind true q b) (hc : isBreak c = true) :
    Behind true (q ++ [c]) { b with empty := b.empty ++ [c] } := by
  refine ⟨?_, by simp, by simp [hc], fun p d e heq hd _ => ?_⟩
  · simp [← h.all, BlockText.all]
  · have hq : q = p ++ [d] := by
      have := congrArg List.dropLast heq
      simpa [List.dropLast_append_of_ne_nil] using this
    have := h.atBreak rfl d (by simp [hq])
    rw [hd] at this
    cases this

/-- A character of a line. -/
theorem character (h : Behind false q b) :
    Behind false (q ++ [c]) { b with text := b.text ++ [c] } := by
  obtain ⟨h₁, h₂⟩ := h.inLine rfl
  refine ⟨?_, fun _ => ⟨h₁, h₂⟩, by simp, fun _ _ _ _ _ _ => h₂⟩
  rw [← h.all, BlockText.all, BlockText.all, h₁, h₂]
  simp

/-- The first character of a line. -/
theorem firstCharacter (h : Behind true q b) :
    Behind false (q ++ [c])
      { b.toLine false c with text := (b.toLine false c).text ++ [c] } := by
  refine ⟨?_, fun _ => ⟨by simp [toLine], by simp [toLine]⟩, by simp, fun _ _ _ _ _ _ => ?_⟩
  · simp [← h.all, BlockText.all, toLine]
  · simp [toLine]

end Behind

end BlockText

/-! ### Chomping -/

/-- The mark of a heading. -/
def Chomping.mark : Chomping → List Char
  | .strip => ['-']
  | .clip  => []
  | .keep  => ['+']

/-- The line ends that are kept are those at the end of `s`. -/
def Chomping.Fits (s : List Char) : Chomping → Prop
  | .strip => ∀ c ∈ s.getLast?, isBreak c = false
  | .clip  => ∃ p c d, s = p ++ [c, d] ∧ isBreak c = false ∧ isBreak d = true
  | .keep  => ∀ c ∈ s.getLast?, isBreak c = true

theorem Chomping.Fits.ne_strip {s : List Char} {ch : Chomping} {c : Char} (h : ch.Fits s)
    (hc : s.getLast? = some c) (hb : isBreak c = true) : ch ≠ .strip := by
  rintro rfl
  have := h c hc
  rw [hb] at this
  cases this

theorem Chomping.Fits.eq_strip {s : List Char} {ch : Chomping} {c : Char} (h : ch.Fits s)
    (hc : s.getLast? = some c) (hb : isBreak c = false) : ch = .strip := by
  cases ch with
  | strip => rfl
  | clip =>
      obtain ⟨p, d, e, rfl, -, he⟩ := h
      obtain rfl : e = c := by simpa using hc
      rw [hb] at he
      cases he
  | keep =>
      have := h c hc
      rw [hb] at this
      cases this

/-- The mark that a text is written with fits it. -/
theorem chompMark_fits (s : List Char) :
    ∃ ch : Chomping, Style.chompMark s = ch.mark ∧ ch.Fits s := by
  obtain ⟨r, rfl⟩ : ∃ r : List Char, r.reverse = s := ⟨s.reverse, s.reverse_reverse⟩
  rw [Style.chompMark, List.reverse_reverse]
  match r with
  | [] => exact ⟨.strip, rfl, by simp [Chomping.Fits]⟩
  | [c] =>
      cases hc : isBreak c with
      | true => exact ⟨.keep, by simp [Chomping.mark, hc], by simp [Chomping.Fits, hc]⟩
      | false => exact ⟨.strip, by simp [Chomping.mark, hc], by simp [Chomping.Fits, hc]⟩
  | c :: d :: r =>
      cases hc : isBreak c with
      | false => exact ⟨.strip, by simp [Chomping.mark, hc], by simp [Chomping.Fits, hc]⟩
      | true =>
          cases hd : isBreak d with
          | true => exact ⟨.keep, by simp [Chomping.mark, hc, hd], by simp [Chomping.Fits, hc]⟩
          | false =>
              exact ⟨.clip, by simp [Chomping.mark, hc, hd], r.reverse, d, c, by simp, hd, hc⟩

/-- What is kept of a text at its end is the text. -/
theorem BlockText.Behind.finish {s : List Char} {b : BlockText} {ch : Chomping}
    (h : Behind true s b) (hch : ch.Fits s) (hs : ch ≠ .strip) : b.finish ch = s := by
  cases ch with
  | strip => exact absurd rfl hs
  | clip =>
      obtain ⟨p, c, d, hq, hc, hd⟩ := hch
      rw [← h.all, BlockText.all, h.clipped p c d hq hc hd, List.append_nil]
      rfl
  | keep => exact h.all

/-! ### Headings -/

/-- The mark of the depth in a heading. -/
def depthMark : Option Nat → List Char
  | some _ => ['2']
  | none   => []

/-- A heading is read as what it was written for. -/
theorem BlockHeading.read_marks {r : List Char} {line column : Nat} (depth : Option Nat)
    (hdepth : depth.all (· = 2)) (ch : Chomping) :
    BlockHeading.read ⟨depthMark depth ++ ch.mark ++ '\n' :: r, line, column⟩ =
      .ok (⟨depth, ch⟩, ⟨'\n' :: r, line, column + (depthMark depth ++ ch.mark).length⟩) := by
  cases depth with
  | none => cases ch <;> rfl
  | some d =>
      obtain rfl : d = 2 := by simpa using hdepth
      cases ch <;> rfl

/-! ### Lines -/

section

variable {least : Nat} {ch : Chomping} {b : BlockText} {r : List Char} {line : Nat}

/-- A margin is skipped. -/
theorem blockFrom_margin {w : Nat} {d? : Option Nat} (n : Nat) :
    ∀ (column : Nat), d?.all (column + n ≤ ·) →
      blockFrom false least ch b (.margin w d?) (Style.spaces n ++ r) line column =
        blockFrom false least ch b (.margin w d?) r line (column + n) := by
  induction n with
  | zero => intro column _; rfl
  | succ n ih =>
      intro column h
      have hin : d?.all (column < ·) = true := by
        cases d? with
        | none => rfl
        | some d => simp only [Option.all_some, decide_eq_true_eq] at h ⊢; omega
      have hnext : d?.all (column + 1 + n ≤ ·) = true := by
        cases d? with
        | none => rfl
        | some d => simp only [Option.all_some, decide_eq_true_eq] at h ⊢; omega
      rw [Style.spaces, List.replicate_succ, List.cons_append, blockFrom]
      simp only [hin, and_self, if_true]
      rw [← Style.spaces, ih (column + 1) hnext]
      simp [Nat.add_assoc, Nat.add_comm 1]

/-- The first character of a line at the depth `d`, which is known or shown by this line. -/
theorem blockFrom_firstCharacter {d : Nat} {d? : Option Nat} {c : Char} (hb : isBreak c = false)
    (hd : d? = some d ∨ d? = none ∧ c ≠ ' ' ∧ least ≤ d) (ht : c ≠ '\t') :
    blockFrom false least ch b (.margin 0 d?) (Style.spaces d ++ c :: r) line 0 =
      blockFrom false least ch { b.toLine false c with text := (b.toLine false c).text ++ [c] }
        (.line d) r line (d + 1) := by
  rw [blockFrom_margin d 0 (by rcases hd with rfl | ⟨rfl, -⟩ <;> simp), Nat.zero_add, blockFrom]
  rcases hd with rfl | ⟨rfl, hc, hle⟩
  · simp [hb]
  · have hmax : max d least = d := Nat.max_eq_left hle
    simp [hb, hc, ht, hmax]

/-- A block ends before a line that is not indented enough. -/
theorem blockFrom_end {d n : Nat} {v : List Char} (hv : IsOutset v) (hn : n < d) :
    blockFrom false least ch b (.margin 0 (some d)) (Style.spaces n ++ v) line 0 =
      .ok (b.finish ch, ⟨v, line, n⟩) := by
  rw [blockFrom_margin n 0 (by simp; omega), Nat.zero_add]
  cases v with
  | nil => rfl
  | cons c v =>
      obtain ⟨hblank, hb, -, -⟩ := hv c (by simp)
      simp only [isBlank, Bool.or_eq_false_iff, beq_eq_false_iff_ne] at hblank
      rw [blockFrom]
      simp [hb, hblank.1, hblank.2, Nat.ne_of_lt hn]

end

/-- Where a reader stands: at the start of a line or in it. -/
def BlockState.at (d : Nat) (atStart : Bool) : BlockState :=
  if atStart then .margin 0 (some d) else .line d

/-- Whether a reader is at the start of a line behind `s`. -/
def startsLine (atStart : Bool) (s : List Char) : Bool := (s.getLast?.map isBreak).getD atStart

theorem startsLine_cons (atStart : Bool) (c : Char) (r : List Char) :
    startsLine atStart (c :: r) = startsLine (isBreak c) r := by
  rw [startsLine, startsLine, List.getLast?_cons]
  cases r.getLast? <;> rfl

/-- **The lines of a block** are read back, whatever follows them. -/
theorem blockFrom_body (least d : Nat) (ch : Chomping) (tail : List Char) :
    ∀ (s q : List Char) (b : BlockText) (atStart : Bool) (line column : Nat), b.Behind atStart q →
      '\t' ∉ s → (atStart = true → column = 0) →
      ∃ b' line' column', line ≤ line' ∧ b'.Behind (startsLine atStart s) (q ++ s) ∧
        (startsLine atStart s = true → column' = 0) ∧
        blockFrom false least ch b (.at d atStart) (Style.literalBody d atStart s ++ tail) line
          column = blockFrom false least ch b' (.at d (startsLine atStart s)) tail line' column'
  | [], q, b, atStart, line, column, hb, _, hcolumn =>
      ⟨b, line, column, Nat.le_refl _, by simpa [startsLine] using hb, hcolumn, rfl⟩
  | c :: r, q, b, atStart, line, column, hb, ht, hcolumn => by
      have hc : c ≠ '\t' := fun e => ht (by simp [e])
      have hr : '\t' ∉ r := fun h => ht (by simp [h])
      rw [startsLine_cons, Style.literalBody]
      cases hbreak : isBreak c with
      | true =>
          -- The line end of an empty line or of the line that is being read.
          obtain ⟨b₁, hb₁, hstep⟩ : ∃ b₁ : BlockText, b₁.Behind true (q ++ [c]) ∧
              blockFrom false least ch b (.at d atStart) (c :: (Style.literalBody d true r ++ tail))
                line column = blockFrom false least ch b₁ (.at d true)
                  (Style.literalBody d true r ++ tail) (line + 1) 0 := by
            cases atStart with
            | true =>
                obtain rfl := hcolumn rfl
                have hsp : c ≠ ' ' := by rintro rfl; cases hbreak
                exact ⟨_, hb.emptyLine hbreak, by simp [BlockState.at, blockFrom, hbreak, hsp, hc]⟩
            | false =>
                exact ⟨_, hb.lineEnd hbreak, by simp [BlockState.at, blockFrom, hbreak]⟩
          obtain ⟨b', line', column', hle, hb', hcolumn', ih⟩ :=
            blockFrom_body least d ch tail r (q ++ [c]) b₁ true (line + 1) 0 hb₁ hr fun _ => rfl
          refine ⟨b', line', column', by omega, by simpa using hb', hcolumn', ?_⟩
          rw [if_pos rfl, List.cons_append, hstep, ih]
      | false =>
          -- A character behind the indentation of its line or in the line.
          obtain ⟨b₁, column₁, hb₁, hstep⟩ : ∃ (b₁ : BlockText) (column₁ : Nat),
              b₁.Behind false (q ++ [c]) ∧
              blockFrom false least ch b (.at d atStart)
                ((if atStart then Style.spaces d else []) ++
                  c :: (Style.literalBody d false r ++ tail)) line column =
              blockFrom false least ch b₁ (.at d false) (Style.literalBody d false r ++ tail) line
                column₁ := by
            cases atStart with
            | true =>
                obtain rfl := hcolumn rfl
                exact ⟨_, _, hb.firstCharacter, blockFrom_firstCharacter hbreak (.inl rfl) hc⟩
            | false =>
                exact ⟨_, column + 1, hb.character, by simp [BlockState.at, blockFrom, hbreak]⟩
          obtain ⟨b', line', column', hle, hb', hcolumn', ih⟩ :=
            blockFrom_body least d ch tail r (q ++ [c]) b₁ false line column₁ hb₁ hr (by simp)
          refine ⟨b', line', column', hle, by simpa using hb', hcolumn', ?_⟩
          rw [if_neg (by simp), List.append_assoc, List.cons_append, hstep, ih]

/-! ### Blocks -/

/-- The heading of a block and the depth that it gives. -/
theorem literalHeading_eq (s : List Char) :
    ∃ (depth : Option Nat) (ch : Chomping), depth.all (· = 2) ∧ ch.Fits s ∧
      (depth = none → ∀ c ∈ s.head?, c ≠ ' ' ∧ isBreak c = false) ∧
      Style.literalHeading s = '|' :: (depthMark depth ++ ch.mark) := by
  obtain ⟨ch, hmark, hfits⟩ := chompMark_fits s
  rw [Style.literalHeading, hmark]
  cases hhead : s.head?.any (fun c => Style.isSpace c || isBreak c) with
  | true => exact ⟨some 2, ch, by simp, hfits, by simp, rfl⟩
  | false =>
      refine ⟨none, ch, by simp, hfits, fun _ c hc => ?_, rfl⟩
      rw [Option.mem_def.mp hc, Option.any_some, Bool.or_eq_false_iff] at hhead
      exact ⟨by simpa [Style.isSpace] using hhead.1, hhead.2⟩

/-- A block is read below its heading. -/
theorem block_heading {parent line column : Nat} {depth : Option Nat} {ch : Chomping}
    {r : List Char} (hdepth : depth.all (· = 2)) :
    block false (some parent) ⟨'|' :: (depthMark depth ++ ch.mark ++ '\n' :: r), line, column⟩ =
      blockFrom false (parent + 1) ch .start (.margin 0 (depth.map (parent + ·))) r (line + 1)
        0 := by
  have hleast : max (((some parent).map (· + 1)).getD 0) 1 = parent + 1 := by
    simp only [Option.map_some, Option.getD_some]; omega
  rw [block, Cursor.skip, List.drop_succ_cons, List.drop_zero, BlockHeading.read_marks depth hdepth,
    hleast]
  rfl

/-- The first line of a block shows its depth where the heading does not give it. -/
theorem blockFrom_margin_none {least d line : Nat} {ch : Chomping} {b : BlockText} {s r : List Char}
    (hs : s ≠ []) (ht : '\t' ∉ s) (hhead : ∀ c ∈ s.head?, c ≠ ' ' ∧ isBreak c = false)
    (hle : least ≤ d) :
    blockFrom false least ch b (.margin 0 none) (Style.literalBody d true s ++ r) line 0 =
      blockFrom false least ch b (.margin 0 (some d)) (Style.literalBody d true s ++ r) line 0 := by
  cases s with
  | nil => exact absurd rfl hs
  | cons c s =>
      obtain ⟨hc, hb⟩ := hhead c (by simp)
      have hct : c ≠ '\t' := fun e => ht (by simp [e])
      rw [Style.literalBody, if_neg (by simp [hb]), if_pos rfl, List.append_assoc, List.cons_append,
        blockFrom_firstCharacter hb (.inr ⟨rfl, hc, hle⟩) hct,
        blockFrom_firstCharacter hb (.inl rfl) hct]

/-- **A literal block** below the column `parent` is read back as the text, before a line that is
not indented more than `parent`. -/
theorem block_literal {parent n : Nat} {s v : List Char} (line column : Nat) (hs : s ≠ [])
    (ht : '\t' ∉ s) (hv : IsOutset v) (hn : n ≤ parent) :
    ∃ line', line < line' ∧
      block false (some parent) ⟨Style.literalHeading s ++ '\n' ::
        (Style.literalBody (parent + 2) true s ++ (if s.getLast?.any isBreak then [] else ['\n']) ++
          (Style.spaces n ++ v)), line, column⟩ = .ok (s, ⟨v, line', n⟩) := by
  obtain ⟨depth, ch, hdepth, hfits, hhead, hheading⟩ := literalHeading_eq s
  have hstart : ∀ r, blockFrom false (parent + 1) ch .start (.margin 0 (depth.map (parent + ·)))
      (Style.literalBody (parent + 2) true s ++ r) (line + 1) 0 =
      blockFrom false (parent + 1) ch .start (.at (parent + 2) true)
        (Style.literalBody (parent + 2) true s ++ r) (line + 1) 0 := by
    intro r
    cases depth with
    | none => exact blockFrom_margin_none hs ht (hhead rfl) (by omega)
    | some d =>
        obtain rfl : d = 2 := by simpa using hdepth
        rfl
  rw [hheading, List.cons_append, block_heading hdepth, List.append_assoc, hstart]
  obtain ⟨b, line', column', hle, hb, hcolumn, hread⟩ := blockFrom_body (parent + 1)
    (parent + 2) ch ((if s.getLast?.any isBreak then [] else ['\n']) ++ (Style.spaces n ++ v)) s []
    .start true (line + 1) 0 .start ht fun _ => rfl
  rw [List.nil_append] at hb
  rw [hread]
  obtain ⟨c, hc⟩ : ∃ c, s.getLast? = some c := ⟨_, List.getLast?_eq_some_getLast hs⟩
  cases hbreak : isBreak c with
  | true =>
      -- The text ends in a line end: the next line stands directly behind it.
      have hstarts : startsLine true s = true := by simp [startsLine, hc, hbreak]
      rw [hstarts] at hb hcolumn ⊢
      obtain rfl := hcolumn rfl
      refine ⟨line', by omega, ?_⟩
      rw [hc, Option.any_some, hbreak, if_pos rfl, List.nil_append, BlockState.at, if_pos rfl,
        blockFrom_end hv (by omega), hb.finish hfits (hfits.ne_strip hc hbreak)]
  | false =>
      -- The line end behind the text is not part of it.
      have hstarts : startsLine true s = false := by simp [startsLine, hc, hbreak]
      rw [hstarts] at hb ⊢
      obtain ⟨h₁, h₂⟩ := hb.inLine rfl
      refine ⟨line' + 1, by omega, ?_⟩
      rw [hc, Option.any_some, hbreak, if_neg (by simp), List.singleton_append, BlockState.at,
        if_neg (by simp), blockFrom]
      have hall := hb.all
      rw [BlockText.all, h₁, h₂, List.append_nil, List.append_nil] at hall
      simp only [isBreak, beq_self_eq_true, Bool.true_or, if_true]
      rw [blockFrom_end hv (by omega), hfits.eq_strip hc hbreak, BlockText.finish, hall]

end RecordingIndex.Yaml
