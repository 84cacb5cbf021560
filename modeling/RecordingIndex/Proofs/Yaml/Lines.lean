import RecordingIndex.Proofs.Yaml.Lexer
import RecordingIndex.Proofs.Yaml.Node

/-!
# Proofs — Yaml — written lines stand for nodes

What is written behind the colon of a key, or behind a dash, stands for a node (`IsValue`,
`IsItem`): its tokens come before those of the next line, and the node is the one they spell.
Texts, numbers, lists and records are values when their parts are; a record at the left margin is a
whole document (`Keyed.ofText_lines`).
-/

namespace RecordingIndex.Yaml

open Walk.Node (entryTokens)

variable {column n : Nat} {indents : List Nat} {v cs rest : List Char} {ts ts' : List Token}

/-- From the start of a line on, the tokens are `ts`.  The line is not indented more than the
innermost collection. -/
def Lines (indents : List Nat) (cs : List Char) (ts : List Token) : Prop :=
  ∃ n v, cs = Style.spaces n ++ v ∧ IsOutset v ∧ (∀ i ∈ indents.head?, n ≤ i) ∧
    Spot.Yields ⟨indents, n, true, v⟩ ts

/-- From behind a colon on, the tokens are `ts`. -/
def BehindColon (indents : List Nat) (cs : List Char) (ts : List Token) : Prop :=
  endsWord cs = true ∧ ∀ column, (∀ i ∈ indents.head?, i < column) →
    ∃ q : Spot, q.indents = indents ∧ q.Yields ts ∧
      ∀ line, ∃ line', Lexer.skipFrom false false false cs line column =
        (⟨q.rest, line', q.column⟩, q.keyAllowed)

/-- A text behind the colon of a key at a column stands for a node. -/
def IsValue (column : Nat) (cs : List Char) (n : Node) : Prop :=
  (∀ c ∈ cs, isPrintable c = true) ∧
    ∃ ts, Spells true ts n ∧ ∀ indents rest ts', Lines (column :: indents) rest ts' →
      BehindColon (column :: indents) (cs ++ rest) (ts ++ ts')

/-- A text behind a dash at a column stands for a node. -/
def IsItem (column : Nat) (cs : List Char) (n : Node) : Prop :=
  (∀ c ∈ cs, isPrintable c = true) ∧
    ∃ ts, Spells false ts n ∧ ∀ indents rest ts', Lines (column :: indents) rest ts' →
      IsOutset (cs ++ rest) ∧
        Spot.Yields ⟨column :: indents, column + 2, true, cs ++ rest⟩ (ts ++ ts')

/-! ### Lines -/

/-- A collection to the right of the innermost ends before the line. -/
theorem Lines.close {parent : Nat} (h : Lines (parent :: indents) cs ts) (hc : parent < column) :
    Lines (column :: parent :: indents) cs (.blockEnd :: ts) := by
  obtain ⟨n, v, hcs, hv, hn, hyields⟩ := h
  have hlt : n < column := Nat.lt_of_le_of_lt (hn parent rfl) hc
  refine ⟨n, v, hcs, hv, fun i hi => ?_, hyields.close hlt⟩
  cases hi
  exact Nat.le_of_lt hlt

/-- The end of the text. -/
theorem Lines.ofEnd : Lines [0] [] [.blockEnd, .streamEnd] := by
  have hv : IsOutset [] := by
    intro c hc
    cases hc
  refine ⟨0, [], rfl, hv, fun i _ => Nat.zero_le i, Spot.Yields.ofEnd ?_⟩
  intro i hi
  cases hi
  exact Nat.le_refl 0

theorem BehindColon.blank (hv : IsOutset v)
    (h : ∀ column, (∀ i ∈ indents.head?, i < column) → Spot.Yields ⟨indents, column, false, v⟩ ts) :
    BehindColon indents (' ' :: v) ts := by
  refine ⟨rfl, fun column hcolumn =>
    ⟨_, rfl, h (column + 1) fun i hi => ?_, fun line => ⟨line, ?_⟩⟩⟩
  · exact Nat.lt_succ_of_lt (hcolumn i hi)
  · exact Spot.skipFrom_space hv

theorem BehindColon.newline (hv : IsOutset v) (h : Spot.Yields ⟨indents, n, true, v⟩ ts) :
    BehindColon indents ('\n' :: (Style.spaces n ++ v)) ts :=
  ⟨rfl, fun _ _ => ⟨_, rfl, h, fun line => ⟨line + 1, Spot.skipFrom_newline hv⟩⟩⟩

theorem BehindColon.ofLines (h : Lines indents cs ts) : BehindColon indents ('\n' :: cs) ts := by
  obtain ⟨n, v, rfl, hv, -, hyields⟩ := h
  exact newline hv hyields

/-! ### Texts and numbers -/

theorem isOutset_of_allowsPlain {c : Char} {r : List Char}
    (h : Style.allowsPlain (c :: r) = true) (rest : List Char) : IsOutset (c :: (r ++ rest)) := by
  obtain ⟨hblank, hbreak, hindicator, -⟩ := startsPlain_of_allowsPlain h rest
  rintro d hd
  cases hd
  refine ⟨hblank, hbreak, ?_, ?_⟩
  · rintro rfl
    cases hindicator
  · exact (isAllowed_of_isPrintable (isPrintable_of_allowsPlain h c List.mem_cons_self)).2.2.2

/-- A token starts where a text starts, whatever its style. -/
theorem isOutset_write (n : Nat) (s rest : List Char) : IsOutset (Style.write n s ++ rest) := by
  have hquote (c : Char) (hc : isBlank c = false ∧ isBreak c = false ∧ c ≠ '#' ∧ c ≠ '\uFEFF')
      (r : List Char) : IsOutset (c :: r) := by
    rintro d hd
    cases hd
    exact hc
  have hsuits := of_suits s
  unfold Style.write
  cases hstyle : Style.of s with
  | plain =>
      simp only [hstyle] at hsuits
      obtain ⟨hs, hplain⟩ := hsuits
      obtain ⟨c, r, rfl⟩ := List.exists_cons_of_ne_nil hs
      simpa using isOutset_of_allowsPlain hplain ('\n' :: rest)
  | single => exact hquote '\'' (by decide) _
  | double => exact hquote '"' (by decide) _
  | literal =>
      obtain ⟨depth, ch, -, -, -, hheading⟩ := literalHeading_eq s
      simp only [hheading]
      exact hquote '|' (by decide) _

theorem isItem_text (s : List Char) :
    IsItem column (Style.write (column + 2) s) (.scalar none s (Spot.spelling (Style.of s))) := by
  refine ⟨fun c hc => isPrintable_of_mem_write hc, _, .scalar _ _, ?_⟩
  intro indents rest ts' h
  obtain ⟨n, v, rfl, hv, hn, hyields⟩ := h
  exact ⟨isOutset_write _ _ _, hyields.write hv (hn column rfl) (by omega)⟩

theorem isValue_text (s : List Char) :
    IsValue column (' ' :: Style.write (column + 2) s)
      (.scalar none s (Spot.spelling (Style.of s))) := by
  refine ⟨?_, _, .scalar _ _, ?_⟩
  · intro c hc
    rcases List.mem_cons.mp hc with rfl | hc
    · rfl
    · exact isPrintable_of_mem_write hc
  intro indents rest ts' h
  obtain ⟨n, v, rfl, hv, hn, hyields⟩ := h
  refine .blank (isOutset_write _ _ _) ?_
  intro col hcol
  exact hyields.write hv (hn column rfl) (hcol column rfl)

theorem isValue_number (k : Nat) :
    IsValue column (' ' :: Nat.toDigits 10 k ++ ['\n'])
      (.scalar none (Nat.toDigits 10 k) .plain) := by
  have hplain : Style.allowsPlain (Nat.toDigits 10 k) = true :=
    allowsPlain_of_letters fun c hc =>
      isLetter_of_isDigit (by omega) (Decimal.isDigit_of_mem_toDigits hc)
  have hne : Nat.toDigits 10 k ≠ [] := Nat.toDigits_ne_nil
  refine ⟨?_, _, .scalar _ _, ?_⟩
  · intro c hc
    simp only [List.cons_append, List.mem_cons, List.mem_append, List.not_mem_nil, or_false] at hc
    rcases hc with rfl | hc | rfl
    · rfl
    · exact isPrintable_of_allowsPlain hplain c hc
    · rfl
  intro indents rest ts' h
  obtain ⟨n, v, rfl, hv, hn, hyields⟩ := h
  have houtset (r : List Char) : IsOutset (Nat.toDigits 10 k ++ r) := by
    obtain ⟨c, ds, hds⟩ := List.exists_cons_of_ne_nil hne
    rw [hds] at hplain ⊢
    exact isOutset_of_allowsPlain hplain _
  rw [List.cons_append, List.cons_append, List.append_assoc, List.singleton_append]
  refine .blank (houtset _) ?_
  intro col hcol
  exact hyields.plain hne hplain hv (hn column rfl) (hcol column rfl)

/-! ### Lists -/

/-- The lines of a list, with the dashes at a column. -/
def itemLines {α : Type} (column : Nat) (item : α → List Char) (xs : List α) : List Char :=
  xs.flatMap fun x => Style.spaces column ++ '-' :: ' ' :: item x

theorem isPrintable_of_mem_itemLines {α : Type} {item : α → List Char} {xs : List α}
    (h : ∀ x ∈ xs, ∀ c ∈ item x, isPrintable c = true) {c : Char}
    (hc : c ∈ itemLines column item xs) : isPrintable c = true := by
  obtain ⟨x, hx, hc⟩ := List.mem_flatMap.mp hc
  rcases List.mem_append.mp hc with hc | hc
  · exact isPrintable_of_mem_spaces hc
  · rcases List.mem_cons.mp hc with rfl | hc
    · rfl
    · rcases List.mem_cons.mp hc with rfl | hc
      · rfl
      · exact h x hx c hc

theorem isOutset_dash (r : List Char) : IsOutset ('-' :: r) := by
  intro c hc
  cases hc
  decide

theorem lines_items {α : Type} {item : α → List Char} {tokens : α → List Token} :
    ∀ xs : List α, (∀ x ∈ xs, ∀ indents rest ts', Lines (column :: indents) rest ts' →
        IsOutset (item x ++ rest) ∧
          Spot.Yields ⟨column :: indents, column + 2, true, item x ++ rest⟩ (tokens x ++ ts')) →
      Lines (column :: indents) rest ts' →
      Lines (column :: indents) (itemLines column item xs ++ rest)
        (xs.flatMap (fun x => .blockEntry :: tokens x) ++ ts')
  | [],      _, h => h
  | x :: xs, hitem, h => by
      -- The lines are read from the last item on: what stands behind an item are the lines of the
      -- others.
      have hxs := lines_items xs (fun y hy => hitem y (List.mem_cons_of_mem x hy)) h
      obtain ⟨houtset, hyields⟩ := hitem x List.mem_cons_self _ _ _ hxs
      refine ⟨column, '-' :: ' ' :: (item x ++ (itemLines column item xs ++ rest)), ?_,
        isOutset_dash _, fun i hi => Nat.le_of_eq (Option.some.inj hi), ?_⟩
      · simp [itemLines]
      · rw [List.flatMap_cons, List.append_assoc]
        exact hyields.dash houtset

/-- **A list** as a value, its dashes at the column of the key. -/
theorem isValue_list {α : Type} {item : α → List Char} {node : α → Node} {xs : List α}
    (h : ∀ x ∈ xs, IsItem column (item x) (node x)) :
    IsValue column (if xs.isEmpty then " []\n".toList else '\n' :: itemLines column item xs)
      (.sequence (xs.map node)) := by
  cases xs with
  | nil =>
      have hprintable : ∀ c ∈ " []\n".toList, isPrintable c = true :=
        List.all_eq_true.mp (by decide)
      refine ⟨hprintable, _, .emptyList, ?_⟩
      intro indents rest ts' h
      obtain ⟨n, v, rfl, hv, hn, hyields⟩ := h
      refine .blank (v := '[' :: ']' :: '\n' :: (Style.spaces n ++ v)) ?_ fun col hcol => ?_
      · intro c hc
        cases hc
        decide
      · exact hyields.emptyList hv (hcol column rfl)
  | cons x xs =>
      -- The tokens of the items are chosen together, so that they make one list of tokens.
      obtain ⟨tokens, htokens⟩ := exists_companions fun y hy => (h y hy).2
      refine ⟨fun c hc => ?_, _, .list (by simp) fun y hy => (htokens y hy).1,
        fun indents rest ts' h => ?_⟩
      · rcases List.mem_cons.mp hc with rfl | hc
        · rfl
        · exact isPrintable_of_mem_itemLines (fun y hy => (h y hy).1) hc
      · exact .ofLines (lines_items _ (fun y hy => (htokens y hy).2) h)

/-! ### Records -/

/-- A key, what is written behind its colon, and the node that this stands for. -/
structure Keyed where
  name  : List Char
  after : List Char
  node  : Node

namespace Keyed

/-- The text of an entry. -/
def text (e : Keyed) : List Char := e.name ++ ':' :: e.after

/-- A key that is a name. -/
def IsName (cs : List Char) : Prop :=
  cs ≠ [] ∧ (∀ c ∈ cs, IsLetter c) ∧ cs.length ≤ Lexer.maxKeyLength

instance (cs : List Char) : Decidable (IsName cs) :=
  inferInstanceAs (Decidable (cs ≠ [] ∧ (∀ c ∈ cs, IsLetter c) ∧ _))

/-- An entry with a name as its key that stands at a column. -/
structure IsAt (column : Nat) (e : Keyed) : Prop where
  isName  : IsName e.name
  isValue : IsValue column e.after e.node

/-- The lines of entries at a column. -/
def lines (column : Nat) (es : List Keyed) : List Char :=
  es.flatMap fun e => Style.spaces column ++ e.text

/-- The mapping of entries. -/
def mapping (es : List Keyed) : Node :=
  .mapping (es.map fun e => (.scalar none e.name .plain, e.node))

variable {e : Keyed}

theorem IsAt.isOutset (h : e.IsAt column) (rest : List Char) : IsOutset (e.text ++ rest) := by
  obtain ⟨c, r, hname⟩ := List.exists_cons_of_ne_nil h.isName.1
  have hplain := allowsPlain_of_letters h.isName.2.1
  rw [text, hname, List.append_assoc]
  rw [hname] at hplain
  exact isOutset_of_allowsPlain hplain _

theorem isPrintable_of_mem_lines {es : List Keyed} (h : ∀ e ∈ es, e.IsAt column) {c : Char}
    (hc : c ∈ lines column es) : isPrintable c = true := by
  obtain ⟨e, he, hc⟩ := List.mem_flatMap.mp hc
  rcases List.mem_append.mp hc with hc | hc
  · exact isPrintable_of_mem_spaces hc
  · rcases List.mem_append.mp hc with hc | hc
    · exact ((h e he).isName.2.1 c hc).plain.1
    · rcases List.mem_cons.mp hc with rfl | hc
      · rfl
      · exact (h e he).isValue.1 c hc

/-- An entry, and the lines behind it. -/
theorem IsAt.yields {opened : List Nat} (h : e.IsAt column)
    (hopened : ∀ i ∈ opened.head?, i ≤ column)
    (hindents : Spot.indentsBehindKey ⟨opened, column, true, e.text ++ rest⟩ = column :: indents)
    (hvalue : BehindColon (column :: indents) (e.after ++ rest) (ts ++ ts')) :
    Spot.Yields ⟨opened, column, true, e.text ++ rest⟩
      (Spot.opening ⟨opened, column, true, e.text ++ rest⟩ ++ (entryTokens e.name ts ++ ts')) := by
  obtain ⟨hends, hskip⟩ := hvalue
  have hcolumn : ∀ i ∈ (column :: indents).head?, i < column + e.name.length + 1 := by
    intro i hi
    cases hi
    omega
  obtain ⟨q, hq, hyields, hskip⟩ := hskip _ hcolumn
  exact hyields.key (by simp [text]) rfl h.isName.1 h.isName.2.1 h.isName.2.2 hends hopened
    (hq.trans hindents.symm) hskip

/-- The lines of entries in an open mapping. -/
theorem lines_entries {tokens : Keyed → List Token} :
    ∀ es : List Keyed, (∀ e ∈ es, e.IsAt column) →
      (∀ e ∈ es, ∀ indents rest ts', Lines (column :: indents) rest ts' →
        BehindColon (column :: indents) (e.after ++ rest) (tokens e ++ ts')) →
      Lines (column :: indents) rest ts' →
      Lines (column :: indents) (lines column es ++ rest)
        (es.flatMap (fun e => entryTokens e.name (tokens e)) ++ ts')
  | [],      _,   _,      h => h
  | e :: es, hat, hvalue, h => by
      have hes := lines_entries es (fun y hy => hat y (List.mem_cons_of_mem e hy))
        (fun y hy => hvalue y (List.mem_cons_of_mem e hy)) h
      have he := hat e List.mem_cons_self
      -- A key at the column of the innermost mapping opens no other one.
      have hdeeper : Lexer.isDeeper (column :: indents) column = false := by simp [Lexer.isDeeper]
      refine ⟨column, e.text ++ (lines column es ++ rest), ?_, he.isOutset _,
        fun i hi => Nat.le_of_eq (Option.some.inj hi), ?_⟩
      · simp [lines]
      · have hle : ∀ i ∈ (column :: indents).head?, i ≤ column := fun i hi =>
          Nat.le_of_eq (Option.some.inj hi).symm
        have hyields := he.yields hle (by simp [Spot.indentsBehindKey, hdeeper])
          (hvalue e List.mem_cons_self _ _ _ hes)
        simpa [Spot.opening, hdeeper] using hyields

/-- The entries of a mapping that opens, behind the indentation of the first. -/
theorem yields_mapping {tokens : Keyed → List Token} {es : List Keyed} (hne : es ≠ [])
    (hindents : ∀ i ∈ indents.head?, i < column) (hat : ∀ e ∈ es, e.IsAt column)
    (hvalue : ∀ e ∈ es, ∀ indents rest ts', Lines (column :: indents) rest ts' →
      BehindColon (column :: indents) (e.after ++ rest) (tokens e ++ ts'))
    (h : Lines (column :: indents) rest ts') :
    ∃ v, lines column es = Style.spaces column ++ v ∧ IsOutset (v ++ rest) ∧
      Spot.Yields ⟨indents, column, true, v ++ rest⟩ (.blockMappingStart ::
        (es.flatMap (fun e => entryTokens e.name (tokens e)) ++ ts')) := by
  obtain ⟨e, es, rfl⟩ := List.exists_cons_of_ne_nil hne
  have hes := lines_entries es (fun y hy => hat y (List.mem_cons_of_mem e hy))
    (fun y hy => hvalue y (List.mem_cons_of_mem e hy)) h
  have he := hat e List.mem_cons_self
  -- The first key opens the mapping, the others stand at its column.
  have hdeeper : Lexer.isDeeper indents column = true := by
    cases indents with
    | nil => rfl
    | cons i is => simpa [Lexer.isDeeper] using hindents i rfl
  have hyields := he.yields (fun i hi => Nat.le_of_lt (hindents i hi))
    (by simp [Spot.indentsBehindKey, hdeeper]) (hvalue e List.mem_cons_self _ _ _ hes)
  refine ⟨e.text ++ lines column es, by simp [lines], ?_, ?_⟩
  · rw [List.append_assoc]
    exact he.isOutset _
  · rw [List.append_assoc]
    simpa [Spot.opening, hdeeper] using hyields

/-- A record stands for a mapping wherever its first key may open one. -/
theorem exists_mapping {es : List Keyed} (hne : es ≠ []) (hat : ∀ e ∈ es, e.IsAt column) :
    ∃ ts, (∀ indentless,
        Spells indentless (.blockMappingStart :: (ts ++ [.blockEnd])) (mapping es)) ∧
      ∃ v, lines column es = Style.spaces column ++ v ∧
        ∀ indents rest ts', (∀ i ∈ indents.head?, i < column) → Lines (column :: indents) rest ts' →
          IsOutset (v ++ rest) ∧
            Spot.Yields ⟨indents, column, true, v ++ rest⟩ (.blockMappingStart :: (ts ++ ts')) := by
  obtain ⟨tokens, htokens⟩ := exists_companions fun e he => (hat e he).isValue.2
  refine ⟨es.flatMap fun e => entryTokens e.name (tokens e), fun _ =>
    .mapping fun e he => (htokens e he).1, ?_⟩
  obtain ⟨e, es', rfl⟩ := List.exists_cons_of_ne_nil hne
  refine ⟨e.text ++ lines column es', by simp [lines], ?_⟩
  intro indents rest ts' hindents h
  obtain ⟨v, hv, hyields⟩ := yields_mapping hne hindents hat (fun e he => (htokens e he).2) h
  -- `yields_mapping` gives its own `v`, the same for all that may follow.
  have hcancel : v = e.text ++ lines column es' := by
    simpa [lines] using hv.symm
  rwa [hcancel] at hyields

/-- **A record** as a value, two columns to the right of its key. -/
theorem isValue_record {es : List Keyed} (hne : es ≠ []) (hat : ∀ e ∈ es, e.IsAt (column + 2)) :
    IsValue column ('\n' :: lines (column + 2) es) (mapping es) := by
  obtain ⟨ts, hspells, v, hv, hyields⟩ := exists_mapping hne hat
  refine ⟨?_, _, hspells true, ?_⟩
  · intro c hc
    rcases List.mem_cons.mp hc with rfl | hc
    · rfl
    · exact isPrintable_of_mem_lines hat hc
  intro indents rest ts' h
  have hdeeper : ∀ i ∈ (column :: indents).head?, i < column + 2 := by
    intro i hi
    cases hi
    omega
  obtain ⟨houtset, hyields⟩ := hyields _ _ _ hdeeper (h.close (by omega))
  rw [hv, List.cons_append, List.append_assoc]
  simpa using BehindColon.newline houtset hyields

/-- A record as an item; its first key stands behind the dash. -/
theorem isItem_record {es : List Keyed} {cs : List Char} (hne : es ≠ [])
    (hat : ∀ e ∈ es, e.IsAt (column + 2))
    (hcs : lines (column + 2) es = Style.spaces (column + 2) ++ cs) :
    IsItem column cs (mapping es) := by
  obtain ⟨ts, hspells, v, hv, hyields⟩ := exists_mapping hne hat
  obtain rfl : cs = v := List.append_cancel_left (hcs.symm.trans hv)
  refine ⟨?_, _, hspells false, ?_⟩
  · intro c hc
    exact isPrintable_of_mem_lines hat (hv ▸ List.mem_append_right _ hc)
  intro indents rest ts' h
  have hdeeper : ∀ i ∈ (column :: indents).head?, i < column + 2 := by
    intro i hi
    cases hi
    omega
  simpa using hyields _ _ _ hdeeper (h.close (by omega))

/-- **A record at the left margin** is a whole document. -/
theorem ofText_lines {es : List Keyed} (hne : es ≠ []) (hat : ∀ e ∈ es, e.IsAt 0) :
    ∃ size, Document.ofText (lines 0 es) = ⟨mapping es, [], size, none, true⟩ := by
  obtain ⟨ts, hspells, v, hv, hyields⟩ := exists_mapping hne hat
  obtain ⟨houtset, hyields⟩ := hyields [] [] _ (fun i hi => nomatch hi) .ofEnd
  rw [List.append_nil] at houtset hyields
  obtain rfl : lines 0 es = v := hv
  refine (hspells false).document ?_
  rw [hyields.lex houtset fun c hc => isPrintable_of_mem_lines hat hc]
  simp

end Keyed

end RecordingIndex.Yaml
