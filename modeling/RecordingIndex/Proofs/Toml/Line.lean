import Mathlib.Data.List.Basic
import RecordingIndex.Toml.Document

/-!
# Proofs — Toml — lines

A document is read line by line.  A line end at the start changes nothing (`lines_lineEnd`); a
comment goes on to the first character that no comment can hold, and a line end must stand there
(`lines_comment`); a bare key that is given a text between double quotes adds an entry
(`lines_entry`).
-/

namespace RecordingIndex.Toml

variable {s : Reader} {key text cs r tail : List Char} {c : Char}

/-! ### Line ends -/

theorem lineEnd?_eq_some_iff :
    lineEnd? cs = some r ↔ cs = '\n' :: r ∨ cs = '\r' :: '\n' :: r := by
  constructor
  · intro h
    rw [lineEnd?.eq_def] at h
    split at h
    · exact .inl (by rw [Option.some.inj h])
    · exact .inr (by rw [Option.some.inj h])
    · cases h
  · rintro (rfl | rfl) <;> rfl

theorem lineEnd_cons (c : Char) (cs : List Char) :
    lineEnd (c :: cs) = match lineEnd? (c :: cs) with
      | some r => .ok r
      | none   => .error .badLine := by
  cases h : lineEnd? (c :: cs) with
  | none =>
      rw [lineEnd.eq_def, h]
  | some r =>
      rw [lineEnd.eq_def, h]

theorem lineEnd_of_lineEnd? (h : lineEnd? cs = some r) : lineEnd cs = .ok r := by
  rcases lineEnd?_eq_some_iff.mp h with rfl | rfl <;> rfl

theorem lineEnd_of_none (hcs : cs ≠ []) (h : lineEnd? cs = none) :
    lineEnd cs = .error .badLine := by
  obtain ⟨c, cs, rfl⟩ := List.exists_cons_of_ne_nil hcs
  rw [lineEnd_cons, h]

theorem length_lineEnd? (h : lineEnd? cs = some r) : r.length < cs.length := by
  rcases lineEnd?_eq_some_iff.mp h with rfl | rfl
  · exact Nat.lt_succ_self _
  · exact Nat.lt_add_of_pos_right (Nat.succ_pos 1)

theorem length_lineEnd (h : lineEnd cs = .ok r) : r.length ≤ cs.length := by
  cases cs with
  | nil =>
      cases h
      exact Nat.le_refl 0
  | cons c cs =>
      rw [lineEnd_cons] at h
      split at h
      · next heq =>
          cases h
          exact Nat.le_of_lt (length_lineEnd? heq)
      · cases h

/-! ### Reading a line -/

/-- A text that begins with no byte order mark is read from its first character on. -/
theorem ofText_eq (h : cs.head? ≠ some '\uFEFF') :
    Table.ofText cs = (lines .start cs).bind Reader.close := by
  rw [Table.ofText.eq_def]
  split
  · exact absurd rfl h
  · rfl

theorem lines_nil (s : Reader) : lines s [] = .ok s := by
  rw [lines]
  rfl

theorem lines_of_line {next : Reader} (hc : isBlank c = false)
    (h : line s (c :: cs) = .ok (next, r)) (hr : r.length < (c :: cs).length) :
    lines s (c :: cs) = lines next r := by
  rw [lines, skipBlanks, List.dropWhile_cons_of_neg (by simp [hc])]
  simp only [h]
  rw [dif_pos hr]

theorem lines_of_line_error {f : Fault} (hc : isBlank c = false)
    (h : line s (c :: cs) = .error f) : lines s (c :: cs) = .error f := by
  rw [lines, skipBlanks, List.dropWhile_cons_of_neg (by simp [hc])]
  simp only [h]

/-- **A line end** at the start changes nothing. -/
theorem lines_lineEnd (h : lineEnd? cs = some r) : lines s cs = lines s r := by
  have hlength := length_lineEnd? h
  rcases lineEnd?_eq_some_iff.mp h with rfl | rfl
  · exact lines_of_line rfl rfl hlength
  · exact lines_of_line rfl rfl hlength

theorem lines_newline : lines s ('\n' :: cs) = lines s cs := lines_lineEnd rfl

/-! ### Comments -/

/-- **A comment** goes on to the first character that it cannot hold; the line must end there. -/
theorem lines_comment (s : Reader) (cs : List Char) :
    lines s ('#' :: cs) = (lineEnd (cs.dropWhile isTextCharacter)).bind (lines s) := by
  have hline : line s ('#' :: cs) =
      (lineEnd (cs.dropWhile isTextCharacter)).bind fun r => .ok (s, r) := rfl
  cases h : lineEnd (cs.dropWhile isTextCharacter) with
  | error f =>
      rw [h] at hline
      exact lines_of_line_error rfl hline
  | ok r =>
      rw [h] at hline
      have hlength := Nat.le_trans (length_lineEnd h)
        (List.dropWhile_suffix isTextCharacter).length_le
      exact lines_of_line rfl hline (Nat.lt_succ_of_le hlength)

/-- What a comment can hold does not matter. -/
theorem lines_comment_append (h : text.all isTextCharacter = true) :
    lines s ('#' :: (text ++ cs)) = lines s ('#' :: cs) := by
  rw [lines_comment, lines_comment, List.dropWhile_append_of_pos (List.all_eq_true.mp h)]

/-- A comment with the end of its line. -/
def isRemark (cs : List Char) : Bool :=
  cs.head? == some '#' && cs.getLast? == some '\n' && cs.dropLast.all isTextCharacter

/-- **A remark** changes nothing. -/
theorem lines_remark (h : isRemark text = true) : lines s (text ++ cs) = lines s cs := by
  simp only [isRemark, Bool.and_eq_true, beq_iff_eq, List.all_eq_true] at h
  obtain ⟨⟨hhead, hlast⟩, htext⟩ := h
  have hsplit := List.dropLast_append_getLast? '\n' hlast
  obtain ⟨rest, hrest⟩ : ∃ rest, text.dropLast = '#' :: rest := by
    cases hdrop : text.dropLast with
    | nil =>
        rw [← hsplit, hdrop] at hhead
        cases hhead
    | cons c rest =>
        rw [← hsplit, hdrop] at hhead
        cases hhead
        exact ⟨rest, rfl⟩
  have hrestText : rest.all isTextCharacter = true := List.all_eq_true.mpr fun c hc =>
    htext c (hrest ▸ List.mem_cons_of_mem '#' hc)
  rw [← hsplit, hrest, List.append_assoc, List.cons_append, lines_comment_append hrestText,
    lines_comment]
  rfl

theorem lines_remark_end (h : isRemark text = true) : lines s text = .ok s := by
  rw [← List.append_nil text, lines_remark h, lines_nil]

/-! ### Entries -/

theorem ne_of_bare (h : isBareCharacter c = true) (d : Char) (hd : isBareCharacter d = false) :
    c ≠ d := by
  rintro rfl
  rw [h] at hd
  cases hd

theorem isBlank_of_bare (h : isBareCharacter c = true) : isBlank c = false := by
  simp [isBlank, ne_of_bare h ' ' rfl, ne_of_bare h '\t' rfl]

theorem lineEnd?_of_bare (h : isBareCharacter c = true) : lineEnd? (c :: cs) = none := by
  refine Option.eq_none_iff_forall_ne_some.mpr fun r heq => ?_
  rcases lineEnd?_eq_some_iff.mp heq with heq | heq
  · exact ne_of_bare h '\n' rfl (List.cons.inj heq).1
  · exact ne_of_bare h '\r' rfl (List.cons.inj heq).1

/-- A character that stands for itself between double quotes. -/
def isPlain (c : Char) : Bool := isTextCharacter c && c != '"' && c != '\\'

theorem basicFrom_plain : ∀ {text : List Char}, (∀ c ∈ text, isPlain c = true) →
    basicFrom false .text (text ++ '"' :: tail) = .ok (text, tail)
  | [],        _ => rfl
  | c :: text, h => by
      have hc := h c List.mem_cons_self
      simp only [isPlain, Bool.and_eq_true, bne_iff_ne] at hc
      obtain ⟨⟨htext, hquote⟩, hback⟩ := hc
      rw [List.cons_append, basicFrom]
      · simp [closing?, hquote, hback, htext, push, Except.map,
          basicFrom_plain fun d hd => h d (List.mem_cons_of_mem c hd)]
      all_goals simp

theorem part?_bare (hne : key ≠ []) (hkey : ∀ c ∈ key, isBareCharacter c = true) :
    part? (key ++ ' ' :: cs) = .ok (some (String.ofList key, skipBlanks cs)) := by
  obtain ⟨c, key, rfl⟩ := List.exists_cons_of_ne_nil hne
  have hc := hkey c List.mem_cons_self
  have hstart : skipBlanks (c :: key ++ ' ' :: cs) = c :: (key ++ ' ' :: cs) :=
    List.dropWhile_cons_of_neg (by simp [isBlank_of_bare hc])
  have htake : (c :: (key ++ ' ' :: cs)).takeWhile isBareCharacter = c :: key := by
    rw [← List.cons_append, List.takeWhile_append_of_pos hkey,
      List.takeWhile_cons_of_neg (by decide), List.append_nil]
  have hdrop : (c :: (key ++ ' ' :: cs)).dropWhile isBareCharacter = ' ' :: cs := by
    rw [← List.cons_append, List.dropWhile_append_of_pos hkey,
      List.dropWhile_cons_of_neg (by decide)]
  have hquotes : ¬(c = '"' ∨ c = '\'') := by
    rintro (h | h)
    · exact ne_of_bare hc '"' rfl h
    · exact ne_of_bare hc '\'' rfl h
  rw [part?, hstart]
  simp only [if_neg hquotes, htake, hdrop]
  rfl

theorem key?_bare (hne : key ≠ []) (hkey : ∀ c ∈ key, isBareCharacter c = true) :
    key? (key ++ ' ' :: '=' :: cs) = .ok (some (([], String.ofList key), '=' :: cs)) := by
  have hmore : moreParts ('=' :: cs) = .ok ([], '=' :: cs) := by
    rw [moreParts]
    simp
  rw [key?, part?_bare hne hkey]
  have hskip : skipBlanks ('=' :: cs) = '=' :: cs := rfl
  simp [bind, Except.bind, hskip, hmore, maxDepth, pure, Except.pure]

theorem value_plain (htext : ∀ c ∈ text, isPlain c = true) (htail : tail.head? ≠ some '"')
    (depth : Nat) :
    value depth ('"' :: (text ++ '"' :: tail)) = .ok (.text (String.ofList text), tail) := by
  have hsimple : value depth ('"' :: (text ++ '"' :: tail)) =
      (quoted ('"' :: (text ++ '"' :: tail))).map fun x => (.text (String.ofList x.1), x.2) := by
    cases depth <;> rfl
  have hquoted : quoted ('"' :: (text ++ '"' :: tail)) =
      basicFrom false .text (text ++ '"' :: tail) := by
    rw [quoted.eq_def]
    split
    · next heq =>
        -- Three double quotes would begin a text of several lines.
        cases text with
        | nil =>
            cases heq
            exact absurd rfl htail
        | cons c text =>
            have hc : c = '"' := (List.cons.inj (List.cons.inj heq).2).1
            have hplain := htext c List.mem_cons_self
            rw [hc] at hplain
            cases hplain
    · next heq => cases heq
    · rfl
  rw [hsimple, hquoted, basicFrom_plain htext]
  rfl

theorem head?_of_lineTail (h : lineTail tail = .ok r) : tail.head? ≠ some '"' := by
  intro hhead
  obtain ⟨tail, rfl⟩ := List.head?_eq_some_iff.mp hhead
  have herror : lineTail ('"' :: tail) = .error .badLine := rfl
  rw [herror] at h
  cases h

theorem length_skipComment (cs : List Char) : (skipComment cs).length ≤ cs.length := by
  rw [skipComment.eq_def]
  split
  · exact Nat.le_succ_of_le (List.dropWhile_suffix isTextCharacter).length_le
  · exact Nat.le_refl _

theorem length_lineTail (h : lineTail tail = .ok r) : r.length ≤ tail.length :=
  Nat.le_trans (length_lineEnd h) <| Nat.le_trans (length_skipComment _) <|
    (List.dropWhile_suffix isBlank).length_le

/-- The line of an entry is neither a comment nor a header, and no empty one. -/
theorem line_entry (hkey : ∀ d ∈ c :: key, isBareCharacter d = true)
    (htext : ∀ d ∈ text, isPlain d = true) (htail : lineTail tail = .ok r) :
    line s (c :: (key ++ ' ' :: '=' :: ' ' :: '"' :: (text ++ '"' :: tail))) =
      (s.add ⟨[], String.ofList (c :: key), .text (String.ofList text)⟩).map fun s => (s, r) := by
  have hc := hkey c List.mem_cons_self
  have hread : key? (c :: key ++ ' ' :: '=' :: ' ' :: '"' :: (text ++ '"' :: tail)) =
      .ok (some (([], String.ofList (c :: key)), '=' :: ' ' :: '"' :: (text ++ '"' :: tail))) :=
    key?_bare (List.cons_ne_nil c key) hkey
  have hskip : skipBlanks (' ' :: '"' :: (text ++ '"' :: tail)) = '"' :: (text ++ '"' :: tail) :=
    rfl
  have hvalue := value_plain htext (head?_of_lineTail htail) (maxDepth - 1)
  rw [line.eq_def]
  split
  · next heq => exact absurd (List.cons.inj heq).1 (ne_of_bare hc '#' rfl)
  · next heq => exact absurd (List.cons.inj heq).1 (ne_of_bare hc '[' rfl)
  · next heq => exact absurd (List.cons.inj heq).1 (ne_of_bare hc '[' rfl)
  · rw [lineEnd?_of_bare hc, ← List.cons_append, hread]
    simp only [hskip, hvalue, htail, bind, Except.bind, pure, Except.pure]
    cases s.add ⟨[], String.ofList (c :: key), .text (String.ofList text)⟩ <;> rfl

/-- **An entry** of a bare key and a text between double quotes is added to the current table. -/
theorem lines_entry (hne : key ≠ []) (hkey : key.all isBareCharacter = true)
    (htext : text.all isPlain = true) (htail : lineTail tail = .ok r) :
    lines s (key ++ ' ' :: '=' :: ' ' :: '"' :: (text ++ '"' :: tail)) =
      (s.add ⟨[], String.ofList key, .text (String.ofList text)⟩).bind fun s => lines s r := by
  rw [List.all_eq_true] at hkey htext
  obtain ⟨c, key, rfl⟩ := List.exists_cons_of_ne_nil hne
  have hblank := isBlank_of_bare (hkey c List.mem_cons_self)
  have hline : line s _ = _ := line_entry hkey htext htail
  rw [List.cons_append]
  cases hadd : s.add ⟨[], String.ofList (c :: key), .text (String.ofList text)⟩ with
  | error f =>
      rw [hadd] at hline
      exact lines_of_line_error hblank hline
  | ok next =>
      rw [hadd] at hline
      refine lines_of_line hblank hline ?_
      have hlength := length_lineTail htail
      simp only [List.length_cons, List.length_append]
      omega

end RecordingIndex.Toml
