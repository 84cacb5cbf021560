import Mathlib.Data.List.TakeWhile
import RecordingIndex.Proofs.Yaml.Block
import RecordingIndex.Proofs.Yaml.Plain
import RecordingIndex.Proofs.Yaml.Quoted
import RecordingIndex.Proofs.Yaml.Style
import RecordingIndex.Yaml.Token.Lexer

/-!
# Proofs — Yaml — the tokens of a written text

A spot is what decides about the tokens from a place on: the open block collections, the column,
whether a key may start there, and the text (`Spot.Yields`).  Each piece that a writer sets down, a
key (`Yields.key`), a text in its style (`Yields.write`), a dash (`Yields.dash`), an empty list
(`Yields.emptyList`), puts its tokens before those of the spot behind it.
-/

namespace RecordingIndex.Yaml

/-- A place between tokens outside all brackets. -/
structure Spot where
  indents    : List Nat
  column     : Nat
  keyAllowed : Bool
  rest       : List Char

namespace Spot

/-- The reader at a spot. -/
def reader (p : Spot) (line : Nat) (waiting : List Token) (handedOver : Nat) : Lexer :=
  ⟨⟨p.rest, line, p.column⟩, p.indents, none, [], p.keyAllowed, waiting, handedOver⟩

/-- A reader, with tokens that wait for nothing any more, whose next token is that of the spot. -/
def Holds (p : Spot) (s : Lexer) (waiting : List Token) : Prop :=
  p.rest.length ≤ s.cursor.rest.length ∧
    ∃ line handedOver,
      s.fetch = ((p.reader line waiting handedOver).closeBlocks (some p.column)).fetchHere

/-- From the spot on, the tokens are `ts`. -/
def Yields (p : Spot) (ts : List Token) : Prop :=
  ∀ s waiting, p.Holds s waiting → s.run = (waiting ++ ts, none)

variable {p q : Spot} {s next : Lexer} {t : Token} {ts waiting : List Token} {v : List Char}
  {line column n : Nat} {keyAllowed : Bool}

/-! ### Between tokens -/

theorem length_skipFrom (flow : Bool) :
    ∀ (cs : List Char) (keyAllowed comment : Bool) (line column : Nat),
      (Lexer.skipFrom flow keyAllowed comment cs line column).1.rest.length ≤ cs.length
  | [],     _, _, _, _ => Nat.le_refl _
  | c :: r, _, _, _, _ => by
      rw [Lexer.skipFrom]
      split
      · exact Nat.le_succ_of_le (length_skipFrom flow r ..)
      · split
        · exact Nat.le_succ_of_le (length_skipFrom flow r ..)
        · exact Nat.le_refl _

theorem skipFrom_outset (hv : IsOutset v) :
    Lexer.skipFrom false keyAllowed false v line column = (⟨v, line, column⟩, keyAllowed) := by
  cases v with
  | nil => rfl
  | cons c r =>
      obtain ⟨hblank, hbreak, hhash, hmark⟩ := hv c rfl
      obtain ⟨hspace, htab⟩ := Bool.or_eq_false_iff.mp hblank
      rw [Lexer.skipFrom, hbreak, hspace, htab, beq_eq_false_iff_ne.mpr hhash,
        beq_eq_false_iff_ne.mpr hmark]
      rfl

theorem skipFrom_spaces (n : Nat) :
    ∀ column, Lexer.skipFrom false keyAllowed false (Style.spaces n ++ v) line column =
      Lexer.skipFrom false keyAllowed false v line (column + n) := by
  induction n with
  | zero => intro column; rfl
  | succ n ih =>
      intro column
      have hstep : Lexer.skipFrom false keyAllowed false (Style.spaces (n + 1) ++ v) line column =
          Lexer.skipFrom false keyAllowed false (Style.spaces n ++ v) line (column + 1) := rfl
      rw [hstep, ih, Nat.add_right_comm, Nat.add_assoc]

/-- A blank divides tokens. -/
theorem skipFrom_space (hv : IsOutset v) :
    Lexer.skipFrom false keyAllowed false (' ' :: v) line column =
      (⟨v, line, column + 1⟩, keyAllowed) :=
  (skipFrom_spaces 1 column).trans (skipFrom_outset hv)

/-- A line end and the indentation of the next line divide tokens, and a key may follow. -/
theorem skipFrom_newline (hv : IsOutset v) :
    Lexer.skipFrom false keyAllowed false ('\n' :: (Style.spaces n ++ v)) line column =
      (⟨v, line + 1, n⟩, true) := by
  have hbreak : Lexer.skipFrom false keyAllowed false ('\n' :: (Style.spaces n ++ v)) line column =
      Lexer.skipFrom false (keyAllowed || !false) false (Style.spaces n ++ v) (line + 1) 0 := rfl
  rw [hbreak, skipFrom_spaces, skipFrom_outset hv, Nat.zero_add, Bool.not_false, Bool.or_true]

/-! ### From spot to spot -/

/-- A reader outside all brackets, whose possible key is given up before the next token, is at the
spot where its next token stands. -/
theorem holds_of_skip (houter : s.outerKeys = []) (hindents : s.indents = p.indents)
    (hskip : Lexer.skipFrom false s.keyAllowed false s.cursor.rest s.cursor.line s.cursor.column =
      (⟨p.rest, line, p.column⟩, p.keyAllowed))
    (hkey : Lexer.refresh ⟨p.rest, line, p.column⟩ s.key = .ok none) : p.Holds s s.waiting := by
  have hlen := length_skipFrom false s.cursor.rest s.keyAllowed false s.cursor.line
    s.cursor.column
  rw [hskip] at hlen
  refine ⟨hlen, line, s.handedOver, ?_⟩
  have hflow : s.inFlow = false := by rw [Lexer.inFlow, houter]; rfl
  have hnext : s.skipToToken.dropStaleKeys = .ok (p.reader line s.waiting s.handedOver) := by
    rw [Lexer.skipToToken, hflow, hskip]
    simp only [Lexer.dropStaleKeys, hkey, houter]
    rw [reader, ← hindents]
    rfl
  rw [Lexer.fetch, hnext]
  rfl

theorem run_of_fetch (hfetch : s.fetch.bind Lexer.dropStaleKeys = .ok next)
    (hlast : next.waiting.getLast? ≠ some .streamEnd)
    (hlen : next.cursor.rest.length < s.cursor.rest.length) :
    s.run = (next.ready ++ next.handOver.run.1, next.handOver.run.2) := by
  rw [Lexer.run, hfetch]
  simp only [dif_pos (And.intro hlast hlen)]

theorem refresh_of_line {c : Cursor} {k : PossibleKey} (hk : k.required = false)
    (h : k.line < c.line) : Lexer.refresh c (some k) = .ok none := by
  have hstale : Lexer.isStale c k = true := by simp [Lexer.isStale, h]
  rw [Lexer.refresh, hstale, hk]
  rfl

theorem dropStaleKeys_of_refresh {k : Option PossibleKey} (houter : s.outerKeys = [])
    (h : Lexer.refresh s.cursor s.key = .ok k) : s.dropStaleKeys = .ok { s with key := k } := by
  obtain ⟨cursor, indents, key, outer, keyAllowed, waiting, handedOver⟩ := s
  obtain rfl : outer = [] := houter
  simp only [Lexer.dropStaleKeys, h]
  rfl

theorem ready_of_no_key (houter : s.outerKeys = []) (hkey : s.key = none) :
    s.ready = s.waiting := by
  rw [Lexer.ready, Lexer.firstUndecided, hkey, houter]
  rfl

theorem ready_of_key {k : PossibleKey} (houter : s.outerKeys = []) (hkey : s.key = some k) :
    s.ready = s.waiting.take (k.number - s.handedOver) := by
  rw [Lexer.ready, Lexer.firstUndecided, hkey, houter]
  rfl

/-- A token behind which no key waits is handed over at once. -/
theorem Yields.tokenAtOnce (h : q.Yields ts) (hfetch : s.fetch.bind Lexer.dropStaleKeys = .ok next)
    (hlast : next.waiting.getLast? ≠ some .streamEnd) (houter : next.outerKeys = [])
    (hkey : next.key = none) (hindents : next.indents = q.indents)
    (hlen : next.cursor.rest.length < s.cursor.rest.length)
    (hskip : Lexer.skipFrom false next.keyAllowed false next.cursor.rest next.cursor.line
      next.cursor.column = (⟨q.rest, line, q.column⟩, q.keyAllowed)) :
    s.run = (next.waiting ++ ts, none) := by
  have hready := ready_of_no_key houter hkey
  have hq : q.Holds next.handOver next.handOver.waiting := by
    refine holds_of_skip houter hindents hskip ?_
    show Lexer.refresh _ next.key = _
    rw [hkey]
    rfl
  rw [run_of_fetch hfetch hlast hlen, h _ _ hq, hready]
  simp only [Lexer.handOver, hready, List.drop_length, List.nil_append]

/-- A token that is no key is handed over, at once or when the next line is reached. -/
theorem Yields.token (h : q.Yields ts) (hfetch : s.fetch = .ok next)
    (hwaiting : next.waiting = waiting ++ [t]) (ht : t ≠ .streamEnd) (houter : next.outerKeys = [])
    (hindents : next.indents = q.indents)
    (hlen : next.cursor.rest.length < s.cursor.rest.length)
    (hskip : Lexer.skipFrom false next.keyAllowed false next.cursor.rest next.cursor.line
      next.cursor.column = (⟨q.rest, line, q.column⟩, q.keyAllowed))
    (hkey : ∀ k ∈ next.key,
      k.required = false ∧ k.number = next.handedOver + waiting.length ∧ k.line < line) :
    s.run = (waiting ++ t :: ts, none) := by
  -- The token is no end of the stream, so the reader goes on behind it.
  have hlast : next.waiting.getLast? ≠ some .streamEnd := by
    rw [hwaiting, List.getLast?_concat]
    exact fun e => ht (Option.some.inj e)
  have hatOnce (hdrop : next.dropStaleKeys = .ok { next with key := none }) :
      s.run = (waiting ++ t :: ts, none) := by
    have hnext : s.fetch.bind Lexer.dropStaleKeys = .ok { next with key := none } := by
      rw [hfetch]
      exact hdrop
    rw [h.tokenAtOnce hnext hlast houter rfl hindents hlen hskip, hwaiting, List.append_assoc]
    rfl
  cases hk : next.key with
  | none => exact hatOnce (dropStaleKeys_of_refresh houter (by rw [hk]; rfl))
  | some k =>
      obtain ⟨hrequired, hnumber, hline⟩ := hkey k hk
      -- A possible key at the token is given up at once, or keeps it waiting until the line of `q`.
      by_cases hstale : Lexer.isStale next.cursor k = true
      · refine hatOnce (dropStaleKeys_of_refresh houter ?_)
        rw [hk, Lexer.refresh, hstale, hrequired]
        rfl
      · have hdrop : next.dropStaleKeys = .ok next := by
          rw [dropStaleKeys_of_refresh (k := next.key) houter]
          rw [hk, Lexer.refresh, eq_false_of_ne_true hstale]
          rfl
        have hready : next.ready = waiting := by
          rw [ready_of_key houter hk, hnumber, hwaiting, Nat.add_sub_cancel_left, List.take_left]
        have hq : q.Holds next.handOver next.handOver.waiting := by
          refine holds_of_skip houter hindents hskip ?_
          show Lexer.refresh _ next.key = _
          rw [hk]
          exact refresh_of_line hrequired hline
        have hnext : s.fetch.bind Lexer.dropStaleKeys = .ok next := by
          rw [hfetch]
          exact hdrop
        rw [run_of_fetch hnext hlast hlen, h _ _ hq, hready]
        simp only [Lexer.handOver, hready, hwaiting, List.drop_left, List.cons_append,
          List.nil_append]

/-! ### Pieces of a text -/

/-- Where no block collection is open to the right of a column, none is closed. -/
theorem closeBlocks_of_head (h : ∀ i ∈ s.indents.head?, i ≤ column) :
    s.closeBlocks (some column) = s := by
  obtain ⟨cursor, indents, key, outer, keyAllowed, waiting, handedOver⟩ := s
  cases indents with
  | nil => simp [Lexer.closeBlocks]
  | cons i is =>
      have hi : ¬ column < i := Nat.not_lt.mpr (h i rfl)
      simp [Lexer.closeBlocks, hi]

theorem closeBlocks_reader (h : ∀ i ∈ p.indents.head?, i ≤ p.column) (handedOver : Nat) :
    (p.reader line waiting handedOver).closeBlocks (some p.column) =
      p.reader line waiting handedOver :=
  closeBlocks_of_head h

/-- A block collection to the right of the column ends. -/
theorem Yields.close {i : Nat} {indents : List Nat} {rest : List Char}
    (h : Yields ⟨indents, column, keyAllowed, rest⟩ ts) (hi : column < i) :
    Yields ⟨i :: indents, column, keyAllowed, rest⟩ (.blockEnd :: ts) := by
  rintro s waiting ⟨hlen, line, handedOver, hfetch⟩
  have hclose : (reader ⟨i :: indents, column, keyAllowed, rest⟩ line waiting
      handedOver).closeBlocks (some column) =
      (reader ⟨indents, column, keyAllowed, rest⟩ line (waiting ++ [.blockEnd])
        handedOver).closeBlocks (some column) := by
    simp [Lexer.closeBlocks, reader, Lexer.inFlow, hi]
  rw [h s (waiting ++ [.blockEnd]) ⟨hlen, line, handedOver, hfetch.trans (by rw [hclose])⟩,
    List.append_assoc]
  rfl

theorem closeBlocks_none (handedOver : Nat) :
    (p.reader line waiting handedOver).closeBlocks none =
      reader { p with indents := [] } line (waiting ++ p.indents.map fun _ => .blockEnd)
        handedOver := by
  have htake : p.indents.takeWhile (fun _ => true) = p.indents :=
    List.takeWhile_eq_self_iff.mpr fun _ _ => rfl
  have hdrop : p.indents.dropWhile (fun _ => true) = [] :=
    List.dropWhile_eq_nil_iff.mpr fun _ _ => rfl
  simp [Lexer.closeBlocks, reader, Lexer.inFlow, htake, hdrop]

/-- At the end of the text every collection ends. -/
theorem Yields.ofEnd {indents : List Nat} (h : ∀ i ∈ indents.head?, i ≤ column) :
    Yields ⟨indents, column, keyAllowed, []⟩
      (indents.map (fun _ => .blockEnd) ++ [.streamEnd]) := by
  rintro s waiting ⟨-, line, handedOver, hfetch⟩
  rw [closeBlocks_reader h] at hfetch
  -- The end of the text counts as the start of a line; where that is does not matter any more.
  have hnext : ∃ c, s.fetch.bind Lexer.dropStaleKeys = .ok ⟨c, [], none, [], false,
      waiting ++ (indents.map fun _ => .blockEnd) ++ [.streamEnd], handedOver⟩ := by
    refine ⟨if column = 0 then ⟨[], line, column⟩ else ⟨[], line + 1, 0⟩, ?_⟩
    rw [hfetch, show Lexer.fetchHere _ = Lexer.fetchEnd _ from rfl, Lexer.fetchEnd, Lexer.fetchMark,
      closeBlocks_none]
    rfl
  obtain ⟨c, hnext⟩ := hnext
  rw [Lexer.run, hnext]
  simp [Lexer.ready, Lexer.firstUndecided]

/-! ### Texts -/

/-- The possible key that is noted at a spot. -/
def noted (p : Spot) (line number : Nat) : Option PossibleKey :=
  if p.keyAllowed then some ⟨number, line, p.column, p.indents.head? == some p.column⟩ else none

theorem noteKey_reader (handedOver : Nat) :
    (p.reader line waiting handedOver).noteKey =
      .ok { p.reader line waiting handedOver with
        key := p.noted line (handedOver + waiting.length) } := by
  obtain ⟨indents, column, keyAllowed, rest⟩ := p
  cases keyAllowed <;> rfl

theorem startsPlain_of_word {c : Char} {r : List Char} (hblank : isBlank c = false)
    (hbreak : isBreak c = false) (hindicator : isIndicator c = false)
    (hword : ((c == '?' || c == ':' || c == '-') && endsWord r) = false) :
    Lexer.startsPlain false c r = true := by
  rw [Lexer.startsPlain, hblank, hbreak, hindicator]
  rcases Bool.and_eq_false_iff.mp hword with h | h
  · obtain ⟨h, hdash⟩ := Bool.or_eq_false_iff.mp h
    obtain ⟨hquestion, hcolon⟩ := Bool.or_eq_false_iff.mp h
    rw [hquestion, hcolon, hdash]
    rfl
  · have hhead : r.head?.any isBlank = false := by
      cases r with
      | nil => rfl
      | cons d r => exact (Bool.or_eq_false_iff.mp h).1
    rw [h, hhead]
    cases c == '-' <;> cases c == '?' <;> cases c == ':' <;> rfl

/-- A text that may stand plainly is read as a plain text. -/
theorem fetchHere_plain {cs tail : List Char} (hcs : cs ≠ []) (h : Style.allowsPlain cs = true)
    (hrest : p.rest = cs ++ tail)
    (hmark : p.column = 0 → startsDocumentMark (cs ++ tail) = false) (handedOver : Nat) :
    (p.reader line waiting handedOver).fetchHere =
      (p.reader line waiting handedOver).fetchPlain := by
  cases cs with
  | nil => exact absurd rfl hcs
  | cons c r =>
      obtain ⟨hblank, hbreak, hindicator, hword⟩ := startsPlain_of_allowsPlain h tail
      -- No other kind of token starts with the character: indicators are excluded by `hindicator`,
      -- and the three that may start a word by `hword`.
      have hne (d : Char) (hd : isIndicator d = true) : c ≠ d := by
        rintro rfl
        rw [hd] at hindicator
        cases hindicator
      have hmark' : ¬ (p.column = 0 ∧ startsDocumentMark (c :: (r ++ tail)) = true) := by
        rintro ⟨h₀, h₁⟩
        rw [← List.cons_append, hmark h₀] at h₁
        cases h₁
      have hstarts := startsPlain_of_word hblank hbreak hindicator hword
      have hentry (d : Char) (hd : (d == '?' || d == ':' || d == '-') = true) :
          ¬ (c = d ∧ endsWord (r ++ tail) = true) := by
        rintro ⟨rfl, hends⟩
        rw [hd, hends] at hword
        cases hword
      rw [Lexer.fetchHere]
      simp [reader, hrest, hne '%' rfl, hne '[' rfl, hne '{' rfl, hne ']' rfl, hne '}' rfl,
        hne ',' rfl, hne '*' rfl, hne '&' rfl, hne '!' rfl, hne '|' rfl, hne '>' rfl, hne '\'' rfl,
        hne '"' rfl, hmark', Lexer.inFlow, hstarts, hentry '-' rfl, hentry '?' rfl, hentry ':' rfl]

theorem fetchPlain_reader {r : PlainText} {handedOver : Nat}
    (hread : Yaml.plain false ((p.indents.head?.map (· + 1)).getD 0) ⟨p.rest, line, p.column⟩ =
      .ok r) :
    (p.reader line waiting handedOver).fetchPlain =
      .ok ⟨r.next, p.indents, p.noted line (handedOver + waiting.length), [], r.gap.spansLines,
        waiting ++ [.scalar r.text .plain], handedOver⟩ := by
  rw [Lexer.fetchPlain, noteKey_reader]
  simp only [reader, bind, Except.bind, Lexer.inFlow, List.isEmpty_nil, Bool.not_true, hread]
  rfl

theorem fetchQuoted_reader {read : Cursor → Except Fault (List Char × Cursor)} {cs : List Char}
    {c : Cursor} {handedOver : Nat} (hread : read ⟨p.rest, line, p.column⟩ = .ok (cs, c)) :
    (p.reader line waiting handedOver).fetchQuoted read =
      .ok ⟨c, p.indents, p.noted line (handedOver + waiting.length), [], false,
        waiting ++ [.scalar cs .quoted], handedOver⟩ := by
  rw [Lexer.fetchQuoted, noteKey_reader]
  simp only [reader, bind, Except.bind, hread]
  rfl

theorem fetchBlock_reader {cs : List Char} {c : Cursor} {handedOver : Nat}
    (hread : block false p.indents.head? ⟨p.rest, line, p.column⟩ = .ok (cs, c)) :
    (p.reader line waiting handedOver).fetchBlock false =
      .ok ⟨c, p.indents, none, [], true, waiting ++ [.scalar cs .literal], handedOver⟩ := by
  have hdrop : (p.reader line waiting handedOver).dropKey =
      .ok (p.reader line waiting handedOver) := rfl
  rw [Lexer.fetchBlock, hdrop]
  simp only [reader, bind, Except.bind, hread]
  rfl

/-- A text that is no key, with a line end behind it. -/
theorem Yields.leaf (h : q.Yields ts) (hindents : p.indents = q.indents)
    (hhead : ∀ i ∈ p.indents.head?, i < p.column) (ht : t ≠ .streamEnd)
    (hstep : ∀ line waiting handedOver, ∃ (c : Cursor) (k? : Option PossibleKey) (ka : Bool)
      (line' : Nat), (p.reader line waiting handedOver).fetchHere =
          .ok ⟨c, p.indents, k?, [], ka, waiting ++ [t], handedOver⟩ ∧
        (k? = none ∨ k? = p.noted line (handedOver + waiting.length)) ∧
        c.rest.length < p.rest.length ∧ line < line' ∧
        Lexer.skipFrom false ka false c.rest c.line c.column =
          (⟨q.rest, line', q.column⟩, q.keyAllowed)) :
    p.Yields (t :: ts) := by
  rintro s waiting ⟨hlen, line, handedOver, hfetch⟩
  rw [closeBlocks_reader fun i hi => Nat.le_of_lt (hhead i hi)] at hfetch
  obtain ⟨c, k?, ka, line', hhere, hnoted, hshort, hline, hskip⟩ := hstep line waiting handedOver
  -- The possible key is not required, since the text stands to the right of the innermost block.
  have hkey : ∀ k ∈ k?,
      k.required = false ∧ k.number = handedOver + waiting.length ∧ k.line < line' := by
    intro k hk
    rcases hnoted with rfl | rfl
    · cases hk
    · unfold noted at hk
      split at hk
      · cases hk
        refine ⟨beq_eq_false_iff_ne.mpr fun e => ?_, rfl, hline⟩
        exact Nat.lt_irrefl _ (hhead _ e)
      · cases hk
  exact h.token (hfetch.trans hhere) rfl ht rfl hindents (Nat.lt_of_lt_of_le hshort hlen) hskip hkey

variable {parent : Nat} {indents : List Nat} {cs : List Char}

theorem head?_lt (h : parent < column) : ∀ i ∈ (parent :: indents).head?, i < column := by
  intro i hi
  cases hi
  exact h

/-- A plain text as a value or an item. -/
theorem Yields.plain (h : Yields ⟨parent :: indents, n, true, v⟩ ts) (hcs : cs ≠ [])
    (hplain : Style.allowsPlain cs = true) (hv : IsOutset v) (hn : n ≤ parent)
    (hcolumn : parent < column) :
    Yields ⟨parent :: indents, column, keyAllowed, cs ++ '\n' :: (Style.spaces n ++ v)⟩
      (.scalar cs .plain :: ts) := by
  refine h.leaf rfl (head?_lt hcolumn) (by simp) fun line waiting handedOver =>
    ⟨⟨v, line + 1, n⟩, _, true, line + 1, ?_, .inr rfl, ?_, Nat.lt_succ_self line,
      skipFrom_outset hv⟩
  · have hread : Yaml.plain false (parent + 1) ⟨cs ++ '\n' :: (Style.spaces n ++ v), line, column⟩ =
        .ok ⟨cs, .lines ['\n'] [], ⟨v, line + 1, n⟩⟩ :=
      plain_newline hcs (standsPlain_of_allowsPlain hplain) (by omega) hv (by omega)
    have hmark : column = 0 → startsDocumentMark (cs ++ '\n' :: (Style.spaces n ++ v)) = false := by
      omega
    rw [fetchHere_plain hcs hplain rfl hmark]
    exact fetchPlain_reader (p := ⟨parent :: indents, column, keyAllowed, _⟩) hread
  · simp only [List.length_append, List.length_cons]
    omega

theorem fetchHere_singleQuote {tail : List Char} (hrest : p.rest = '\'' :: tail)
    (hcolumn : p.column ≠ 0) (handedOver : Nat) :
    (p.reader line waiting handedOver).fetchHere =
      (p.reader line waiting handedOver).fetchQuoted singleQuoted := by
  rw [Lexer.fetchHere]
  simp [reader, hrest, hcolumn]

theorem fetchHere_doubleQuote {tail : List Char} (hrest : p.rest = '"' :: tail)
    (hcolumn : p.column ≠ 0) (handedOver : Nat) :
    (p.reader line waiting handedOver).fetchHere =
      (p.reader line waiting handedOver).fetchQuoted doubleQuoted := by
  rw [Lexer.fetchHere]
  simp [reader, hrest, hcolumn]

theorem fetchHere_bar {tail : List Char} (hrest : p.rest = '|' :: tail)
    (hcolumn : p.column ≠ 0) (handedOver : Nat) :
    (p.reader line waiting handedOver).fetchHere =
      (p.reader line waiting handedOver).fetchBlock false := by
  rw [Lexer.fetchHere]
  simp [reader, hrest, hcolumn, Lexer.inFlow]

/-- A quoted text as a value or an item. -/
theorem Yields.quoted (h : Yields ⟨parent :: indents, n, true, v⟩ ts) {rest : List Char}
    {read : Cursor → Except Fault (List Char × Cursor)} (hv : IsOutset v)
    (hcolumn : parent < column)
    (hhere : ∀ line waiting handedOver,
      (reader ⟨parent :: indents, column, keyAllowed, rest⟩ line waiting handedOver).fetchHere =
        (reader ⟨parent :: indents, column, keyAllowed, rest⟩ line waiting handedOver).fetchQuoted
          read)
    (hread : ∀ line, ∃ line' column', line ≤ line' ∧
      read ⟨rest, line, column⟩ = .ok (cs, ⟨'\n' :: (Style.spaces n ++ v), line', column'⟩))
    (hlen : ('\n' :: (Style.spaces n ++ v)).length < rest.length) :
    Yields ⟨parent :: indents, column, keyAllowed, rest⟩ (.scalar cs .quoted :: ts) := by
  refine h.leaf rfl (head?_lt hcolumn) (by simp) fun line waiting handedOver => ?_
  obtain ⟨line', column', hle, hread⟩ := hread line
  refine ⟨⟨'\n' :: (Style.spaces n ++ v), line', column'⟩, _, false, line' + 1, ?_, .inr rfl, hlen,
    Nat.lt_succ_of_le hle, skipFrom_newline hv⟩
  rw [hhere]
  exact fetchQuoted_reader (p := ⟨parent :: indents, column, keyAllowed, rest⟩) hread

/-- The spelling of a text that is written in a style. -/
def spelling : Style → Spelling
  | .plain   => .plain
  | .literal => .literal
  | _        => .quoted

/-- **A text in its style** as a value or an item. -/
theorem Yields.write (h : Yields ⟨parent :: indents, n, true, v⟩ ts) (hv : IsOutset v)
    (hn : n ≤ parent) (hcolumn : parent < column) :
    Yields ⟨parent :: indents, column, keyAllowed,
        Style.write (parent + 2) cs ++ (Style.spaces n ++ v)⟩
      (.scalar cs (spelling (Style.of cs)) :: ts) := by
  have hsuits := of_suits cs
  have hcolumn' : column ≠ 0 := by omega
  have hquote (q : Char) (body : List Char) :
      q :: body ++ [q, '\n'] ++ (Style.spaces n ++ v) =
        q :: (body ++ q :: '\n' :: (Style.spaces n ++ v)) := by simp
  unfold Style.write
  cases hstyle : Style.of cs with
  | plain =>
      simp only [hstyle] at hsuits ⊢
      rw [List.append_assoc]
      exact h.plain hsuits.1 hsuits.2 hv hn hcolumn
  | single =>
      simp only [hstyle] at hsuits ⊢
      rw [hquote]
      refine h.quoted hv hcolumn (fun _ _ => fetchHere_singleQuote rfl hcolumn') (fun line => ?_) ?_
      · exact singleQuoted_body line column (Nat.succ_pos (parent + 1)) (by simp) hsuits
      · simp only [List.length_cons, List.length_append]
        omega
  | double =>
      rw [hquote]
      refine h.quoted hv hcolumn (fun _ _ => fetchHere_doubleQuote rfl hcolumn') (fun line => ?_) ?_
      · obtain ⟨column', hread⟩ := doubleQuoted_body line column cs ('\n' :: (Style.spaces n ++ v))
        exact ⟨line, column', Nat.le_refl line, hread⟩
      · simp only [List.length_cons, List.length_append]
        omega
  | literal =>
      simp only [hstyle] at hsuits ⊢
      -- What suits a literal block is printable, so it holds no tab.
      have htab : '\t' ∉ cs := fun ht => nomatch hsuits.2 _ ht
      rw [List.append_assoc, List.append_assoc, List.cons_append, ← List.append_assoc
        (Style.literalBody _ _ _)]
      refine h.leaf rfl (head?_lt hcolumn) (by simp) fun line waiting handedOver => ?_
      obtain ⟨line', hlt, hread⟩ := block_literal line column hsuits.1 htab hv hn
      refine ⟨⟨v, line', n⟩, none, true, line', ?_, .inl rfl, ?_, hlt, skipFrom_outset hv⟩
      · obtain ⟨depth, ch, -, -, -, hheading⟩ := literalHeading_eq cs
        rw [fetchHere_bar (by rw [hheading]; rfl) hcolumn']
        exact fetchBlock_reader hread
      · simp only [List.length_cons, List.length_append]
        omega

/-! ### Keys -/

theorem fetchHere_colon {r : List Char} (hrest : s.cursor.rest = ':' :: r)
    (hcolumn : s.cursor.column ≠ 0) (hr : endsWord r = true) : s.fetchHere = s.fetchValue := by
  rw [Lexer.fetchHere]
  simp [hrest, hcolumn, hr]

theorem isOutset_colon (r : List Char) : IsOutset (':' :: r) := by
  intro c hc
  cases hc
  decide

/-- The reader behind a text that turns out to be a key, at the colon. -/
def atColon (p : Spot) (line handedOver : Nat) (cs r : List Char) : Lexer :=
  ⟨⟨':' :: r, line, p.column + cs.length⟩, p.indents,
    some ⟨handedOver, line, p.column, p.indents.head? == some p.column⟩, [], false,
    [.scalar cs .plain], handedOver⟩

/-- The tokens that open a block collection, if its column lies deeper than the innermost. -/
def opening (p : Spot) : List Token :=
  if Lexer.isDeeper p.indents p.column then [.blockMappingStart] else []

/-- The open block collections behind a key. -/
def indentsBehindKey (p : Spot) : List Nat :=
  if Lexer.isDeeper p.indents p.column then p.column :: p.indents else p.indents

theorem refresh_of_near {c : Cursor} {k : PossibleKey} {width : Nat}
    (h : width ≤ Lexer.maxKeyLength) (hline : c.line = k.line)
    (hcolumn : c.column = k.column + width) :
    Lexer.refresh c (some k) = .ok (some k) := by
  have hstale : Lexer.isStale c k = false := by
    simp only [Lexer.isStale, hline, hcolumn, Bool.or_eq_false_iff, decide_eq_false_iff_not]
    omega
  rw [Lexer.refresh, hstale]
  rfl

theorem fetch_atColon {r : List Char} {handedOver : Nat} (hcs : cs ≠ [])
    (hlen : cs.length ≤ Lexer.maxKeyLength) (hr : endsWord r = true)
    (hhead : ∀ i ∈ p.indents.head?, i ≤ p.column) :
    (p.atColon line handedOver cs r).fetch =
      .ok ⟨⟨r, line, p.column + cs.length + 1⟩, p.indentsBehindKey, none, [], false,
        p.opening ++ [.key, .scalar cs .plain, .value], handedOver⟩ := by
  have hcolumn : p.column + cs.length ≠ 0 := by
    have := List.length_pos_iff.mpr hcs
    omega
  -- Neither a gap nor a stale key lies before the colon.
  have hskip : (p.atColon line handedOver cs r).skipToToken = p.atColon line handedOver cs r := by
    rw [Lexer.skipToToken]
    simp only [atColon, Lexer.inFlow, List.isEmpty_nil, Bool.not_true,
      skipFrom_outset (isOutset_colon r)]
  have hdrop : (p.atColon line handedOver cs r).dropStaleKeys =
      .ok (p.atColon line handedOver cs r) := by
    rw [dropStaleKeys_of_refresh rfl (refresh_of_near hlen rfl rfl)]
    rfl
  have hfetch : (p.atColon line handedOver cs r).fetch =
      (p.atColon line handedOver cs r).fetchValue := by
    rw [Lexer.fetch, hskip, hdrop]
    show ((p.atColon line handedOver cs r).closeBlocks (some (p.column + cs.length))).fetchHere = _
    rw [closeBlocks_of_head fun i hi => Nat.le_add_right_of_le (hhead i hi),
      fetchHere_colon rfl hcolumn hr]
  rw [hfetch, opening, indentsBehindKey]
  cases hdeeper : Lexer.isDeeper p.indents p.column with
  | true =>
      simp [Lexer.fetchValue, atColon, Lexer.putBefore, Lexer.openBlock, Lexer.inFlow, hdeeper,
        Lexer.push, Cursor.skip]
  | false =>
      simp [Lexer.fetchValue, atColon, Lexer.putBefore, Lexer.openBlock, Lexer.inFlow, hdeeper,
        Lexer.push, Cursor.skip]

theorem run_atColon {r : List Char} {handedOver : Nat} (h : q.Yields ts) (hcs : cs ≠ [])
    (hlen : cs.length ≤ Lexer.maxKeyLength) (hr : endsWord r = true)
    (hhead : ∀ i ∈ p.indents.head?, i ≤ p.column) (hindents : q.indents = p.indentsBehindKey)
    (hskip : ∃ line', Lexer.skipFrom false false false r line (p.column + cs.length + 1) =
      (⟨q.rest, line', q.column⟩, q.keyAllowed)) :
    (p.atColon line handedOver cs r).run =
      (p.opening ++ .key :: .scalar cs .plain :: .value :: ts, none) := by
  obtain ⟨line', hskip⟩ := hskip
  have hwaiting : p.opening ++ [.key, .scalar cs .plain, .value] =
      (p.opening ++ [.key, .scalar cs .plain]) ++ [.value] := by simp
  rw [h.token (fetch_atColon hcs hlen hr hhead) hwaiting (by simp) rfl hindents.symm
    (Nat.lt_succ_self _) hskip (by simp)]
  simp

/-- **A key** and its colon, the key a name. -/
theorem Yields.key {r : List Char} (h : q.Yields ts) (hp : p.rest = cs ++ ':' :: r)
    (hallowed : p.keyAllowed = true) (hcs : cs ≠ []) (hletters : ∀ c ∈ cs, IsLetter c)
    (hlen : cs.length ≤ Lexer.maxKeyLength) (hr : endsWord r = true)
    (hhead : ∀ i ∈ p.indents.head?, i ≤ p.column) (hindents : q.indents = p.indentsBehindKey)
    (hskip : ∀ line, ∃ line', Lexer.skipFrom false false false r line (p.column + cs.length + 1) =
      (⟨q.rest, line', q.column⟩, q.keyAllowed)) :
    p.Yields (p.opening ++ .key :: .scalar cs .plain :: .value :: ts) := by
  rintro s waiting ⟨hshort, line, handedOver, hfetch⟩
  rw [closeBlocks_reader hhead] at hfetch
  -- The name is read as a plain text that ends before the colon.
  have hplain := allowsPlain_of_letters hletters
  have hmark : startsDocumentMark (cs ++ ':' :: r) = false := by
    cases cs with
    | nil => exact absurd rfl hcs
    | cons c cs =>
        obtain ⟨-, -, -, -, -, -, -, hdash, hdot⟩ := (hletters c List.mem_cons_self).plain
        exact startsDocumentMark_of_head (beq_eq_false_iff_ne.mp hdash)
          (beq_eq_false_iff_ne.mp hdot)
  have hread : Yaml.plain false ((p.indents.head?.map (· + 1)).getD 0) ⟨p.rest, line, p.column⟩ =
      .ok ⟨cs, .blanks [], ⟨':' :: r, line, p.column + cs.length⟩⟩ := by
    rw [hp]
    exact plain_colon hcs (standsPlain_of_allowsPlain hplain) hr fun _ => hmark
  have hnoted : p.noted line (handedOver + waiting.length) =
      some ⟨handedOver + waiting.length, line, p.column,
        p.indents.head? == some p.column⟩ := by
    rw [noted, hallowed]
    rfl
  rw [fetchHere_plain hcs hplain hp fun _ => hmark, fetchPlain_reader hread, hnoted] at hfetch
  -- The text waits until the colon makes it a key.
  let next : Lexer := ⟨⟨':' :: r, line, p.column + cs.length⟩, p.indents,
    some ⟨handedOver + waiting.length, line, p.column, p.indents.head? == some p.column⟩, [], false,
    waiting ++ [.scalar cs .plain], handedOver⟩
  have hnext : s.fetch.bind Lexer.dropStaleKeys = .ok next := by
    rw [hfetch]
    show next.dropStaleKeys = .ok next
    exact dropStaleKeys_of_refresh rfl (refresh_of_near hlen rfl rfl)
  have hready : next.ready = waiting := by
    rw [ready_of_key rfl rfl]
    show (waiting ++ [_]).take (handedOver + waiting.length - handedOver) = waiting
    rw [Nat.add_sub_cancel_left, List.take_left]
  have hhandOver : next.handOver = p.atColon line (handedOver + waiting.length) cs r := by
    simp only [Lexer.handOver, hready]
    show (⟨_, _, _, _, _, (waiting ++ [_]).drop waiting.length, _⟩ : Lexer) = _
    rw [List.drop_left]
    rfl
  have hrest : next.cursor.rest.length < s.cursor.rest.length := by
    rw [hp] at hshort
    have := List.length_pos_iff.mpr hcs
    simp only [List.length_append, List.length_cons] at hshort
    show (':' :: r).length < _
    rw [List.length_cons]
    omega
  rw [run_of_fetch hnext (by simp [next]) hrest, hready, hhandOver,
    run_atColon h hcs hlen hr hhead hindents (hskip line)]

/-! ### Lists -/

/-- The dash of an item at the column of the innermost mapping. -/
theorem Yields.dash (h : Yields ⟨parent :: indents, parent + 2, true, v⟩ ts) (hv : IsOutset v) :
    Yields ⟨parent :: indents, parent, true, '-' :: ' ' :: v⟩ (.blockEntry :: ts) := by
  rintro s waiting ⟨hlen, line, handedOver, hfetch⟩
  have hhead : ∀ i ∈ (parent :: indents).head?, i ≤ parent := by
    intro i hi
    cases hi
    exact Nat.le_refl _
  rw [closeBlocks_reader hhead] at hfetch
  have hhere : (reader ⟨parent :: indents, parent, true, '-' :: ' ' :: v⟩ line waiting
      handedOver).fetchHere = .ok ⟨⟨' ' :: v, line, parent + 1⟩, parent :: indents, none, [], true,
        waiting ++ [.blockEntry], handedOver⟩ := by
    have hmark : startsDocumentMark ('-' :: ' ' :: v) = false := rfl
    have hdeeper : Lexer.isDeeper (parent :: indents) parent = false := by simp [Lexer.isDeeper]
    have hends : endsWord (' ' :: v) = true := rfl
    rw [Lexer.fetchHere]
    simp [reader, hmark, hends, Lexer.fetchBlockEntry, Lexer.inFlow, Lexer.openBlock, hdeeper,
      Lexer.dropKey, Lexer.push, Cursor.skip, Functor.map, Except.map]
  exact h.token (hfetch.trans hhere) rfl (by simp) rfl rfl
    (Nat.lt_of_lt_of_le (Nat.lt_succ_self _) hlen) (skipFrom_space hv) (by simp)

/-- An empty list as a value. -/
theorem Yields.emptyList (h : Yields ⟨parent :: indents, n, true, v⟩ ts) (hv : IsOutset v)
    (hcolumn : parent < column) :
    Yields ⟨parent :: indents, column, false, '[' :: ']' :: '\n' :: (Style.spaces n ++ v)⟩
      (.flowSequenceStart :: .flowSequenceEnd :: ts) := by
  rintro s waiting ⟨hlen, line, handedOver, hfetch⟩
  rw [closeBlocks_reader fun i hi => Nat.le_of_lt (head?_lt hcolumn i hi)] at hfetch
  have hcolumn' : column ≠ 0 := by omega
  -- Between the brackets no token waits, and no key can start at `]`.
  let inside (waiting : List Token) (handedOver : Nat) : Lexer :=
    ⟨⟨']' :: '\n' :: (Style.spaces n ++ v), line, column + 1⟩, parent :: indents, none, [none],
      true, waiting, handedOver⟩
  have hstart : s.fetch.bind Lexer.dropStaleKeys =
      .ok (inside (waiting ++ [.flowSequenceStart]) handedOver) := by
    rw [hfetch, Lexer.fetchHere]
    simp [reader, hcolumn', Lexer.fetchFlowStart, Lexer.noteKey, Lexer.push, Cursor.skip]
    rfl
  have hend (handedOver : Nat) : (inside [] handedOver).fetch =
      .ok ⟨⟨'\n' :: (Style.spaces n ++ v), line, column + 2⟩, parent :: indents, none, [], false,
        [.flowSequenceEnd], handedOver⟩ := rfl
  have hready : (inside (waiting ++ [.flowSequenceStart]) handedOver).ready =
      waiting ++ [.flowSequenceStart] := rfl
  have hhandOver : (inside (waiting ++ [.flowSequenceStart]) handedOver).handOver =
      inside [] (handedOver + (waiting ++ [Token.flowSequenceStart]).length) := by
    simp only [Lexer.handOver, hready]
    show (⟨_, _, _, _, _, (waiting ++ [_]).drop (waiting ++ [_]).length, _⟩ : Lexer) = _
    rw [List.drop_length]
  have hrun (handedOver : Nat) : (inside [] handedOver).run = (.flowSequenceEnd :: ts, none) := by
    have hwaiting : [Token.flowSequenceEnd] = [] ++ [.flowSequenceEnd] := rfl
    exact h.token (hend handedOver) hwaiting (by simp) rfl rfl (Nat.lt_succ_self _)
      (skipFrom_newline hv) (by simp)
  have hshort : (inside (waiting ++ [.flowSequenceStart]) handedOver).cursor.rest.length <
      s.cursor.rest.length := Nat.lt_of_lt_of_le (Nat.lt_succ_self _) hlen
  rw [run_of_fetch hstart (by simp [inside]) hshort, hready, hhandOver, hrun, List.append_assoc]
  rfl

/-! ### Whole texts -/

theorem lines_eq_self : ∀ cs : List Char, (∀ c ∈ cs, isPrintable c = true) → lines cs = cs
  | [],     _ => rfl
  | c :: r, h => by
      obtain ⟨-, hreturn, hnext, -⟩ := isAllowed_of_isPrintable (h c List.mem_cons_self)
      have hr := lines_eq_self r fun d hd => h d (List.mem_cons_of_mem c hd)
      rw [lines, hr]
      · rintro _ rfl
        exact absurd rfl hreturn
      · exact hreturn
      · exact hnext

/-- A text of characters that can stand unescaped is read as it is. -/
theorem prepare_of_isPrintable {cs : List Char} (h : ∀ c ∈ cs, isPrintable c = true) :
    prepare cs = .ok cs := by
  have hbody : prepare cs =
      if cs.all isAllowed then .ok (lines cs) else .error .controlCharacter := by
    unfold prepare
    split
    next r =>
      exact absurd rfl (isAllowed_of_isPrintable (h '\uFEFF' List.mem_cons_self)).2.2.2
    next => rfl
  have hall : cs.all isAllowed = true :=
    List.all_eq_true.mpr fun c hc => (isAllowed_of_isPrintable (h c hc)).1
  rw [hbody, if_pos hall, lines_eq_self cs h]

/-- The tokens of a text that starts with a token. -/
theorem Yields.lex (h : Yields ⟨[], 0, true, v⟩ ts) (hv : IsOutset v)
    (hprintable : ∀ c ∈ v, isPrintable c = true) : Token.lex v = (ts, none) := by
  rw [Token.lex, prepare_of_isPrintable hprintable]
  exact h _ _ (holds_of_skip rfl rfl (skipFrom_outset hv) rfl)

end Spot

end RecordingIndex.Yaml
