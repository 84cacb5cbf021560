import RecordingIndex.Path

/-!
# Proofs — Path — the entries of a directory

A name is a part of its own (`IsName`).  The path of a name in a directory walks like the directory
and then enters the name (`steps_child`), and the name is its file name (`fileName?_child`), in
whatever way the path of the directory is spelled.
-/

namespace RecordingIndex.Path

variable {p : Path} {n : Bytes}

/-! ### Parts -/

theorem split_ne_nil (sep : UInt8) : ∀ b : Bytes, split sep b ≠ []
  | []     => by simp [split]
  | b :: r => by
      rw [split]
      split
      · simp
      · split <;> simp

theorem split_append (sep : UInt8) (b : Bytes) :
    ∀ a : Bytes, split sep (a ++ sep :: b) = split sep a ++ split sep b
  | []     => by simp [split]
  | c :: a => by
      rw [List.cons_append, split, split, split_append sep b a]
      split
      · rfl
      · cases h : split sep a with
        | nil => exact absurd h (split_ne_nil sep a)
        | cons q qs => rfl

theorem intercalate_cons (sep x : Bytes) {xs : List Bytes} (h : xs ≠ []) :
    sep.intercalate (x :: xs) = x ++ sep ++ sep.intercalate xs := by
  obtain ⟨y, ys, rfl⟩ := List.exists_cons_of_ne_nil h
  simp [List.intercalate]

theorem intercalate_concat (sep y : Bytes) :
    ∀ {xs : List Bytes}, xs ≠ [] → sep.intercalate (xs ++ [y]) = sep.intercalate xs ++ sep ++ y
  | [],           h => absurd rfl h
  | [x],          _ => by simp [List.intercalate]
  | x :: z :: zs, _ => by
      have ih : sep.intercalate ((z :: zs) ++ [y]) = sep.intercalate (z :: zs) ++ sep ++ y :=
        intercalate_concat sep y (List.cons_ne_nil z zs)
      rw [List.cons_append, intercalate_cons sep x (by simp), ih, intercalate_cons sep x (by simp)]
      simp only [List.append_assoc]

/-- The parts with the separator between them are the whole. -/
theorem intercalate_split (sep : UInt8) : ∀ b : Bytes, [sep].intercalate (split sep b) = b
  | []     => rfl
  | c :: r => by
      have ih := intercalate_split sep r
      rw [split]
      split
      · next hc => rw [intercalate_cons _ _ (split_ne_nil sep r), ih, hc]; rfl
      · cases h : split sep r with
        | nil => exact absurd h (split_ne_nil sep r)
        | cons q qs =>
            rw [h] at ih
            rw [← ih]
            cases qs <;> simp [List.intercalate]

theorem split_eq_singleton {sep : UInt8} : ∀ {b : Bytes}, sep ∉ b → split sep b = [b]
  | [],     _ => rfl
  | c :: r, h => by
      have hc : c ≠ sep := fun e => h (e ▸ List.mem_cons_self)
      rw [split, if_neg hc, split_eq_singleton fun hr => h (List.mem_cons_of_mem c hr)]

theorem not_mem_of_mem_split {sep : UInt8} {part : Bytes} :
    ∀ {b : Bytes}, part ∈ split sep b → sep ∉ part
  | [],     h => by
      cases List.mem_singleton.mp h
      simp
  | c :: r, h => by
      rw [split] at h
      split at h
      · rcases List.mem_cons.mp h with rfl | h
        · simp
        · exact not_mem_of_mem_split h
      · next hc =>
          cases hr : split sep r with
          | nil => exact absurd hr (split_ne_nil sep r)
          | cons q qs =>
              rw [hr] at h
              have hq : ∀ x ∈ q :: qs, sep ∉ x := fun x hx => not_mem_of_mem_split (hr ▸ hx)
              rcases List.mem_cons.mp h with rfl | h
              · simpa [Ne.symm hc] using hq q List.mem_cons_self
              · exact hq part (List.mem_cons_of_mem q h)

/-! ### Names -/

/-- A part that stands for an entry of a directory. -/
structure IsName (n : Bytes) : Prop where
  ne_nil   : n ≠ []
  ne_dot   : n ≠ [dot]
  ne_dots  : n ≠ [dot, dot]
  no_slash : slash ∉ n

instance (n : Bytes) : Decidable (IsName n) :=
  decidable_of_iff (n ≠ [] ∧ n ≠ [dot] ∧ n ≠ [dot, dot] ∧ slash ∉ n)
    ⟨fun ⟨h₁, h₂, h₃, h₄⟩ => ⟨h₁, h₂, h₃, h₄⟩,
      fun h => ⟨h.ne_nil, h.ne_dot, h.ne_dots, h.no_slash⟩⟩

theorem IsName.not_isAbsolute (h : IsName n) : isAbsolute ⟨n⟩ = false := by
  cases n with
  | nil => rfl
  | cons b r =>
      have hb : b ≠ slash := fun e => h.no_slash (e ▸ List.mem_cons_self)
      simpa [isAbsolute] using hb

theorem IsName.step (h : IsName n) : Step.ofPart? n = some (.enter n) := by
  rw [Step.ofPart?, if_neg h.ne_nil, if_neg h.ne_dot, if_neg h.ne_dots]

theorem IsName.component (h : IsName n) : Component.ofPart? n = some (.name n) := by
  rw [Component.ofPart?, if_neg (by simp [h.ne_nil, h.ne_dot]), if_neg h.ne_dots]

/-! ### A name in a directory -/

/-- The bytes before the names in a directory. -/
def stem (p : Path) : Bytes :=
  if p.bytes = [] ∨ p.bytes.getLast? = some slash then p.bytes else p.bytes ++ [slash]

theorem child_bytes (h : IsName n) : (p.child n).bytes = p.stem ++ n := by
  rw [child, join, h.not_isAbsolute, stem]
  simp only [Bool.false_eq_true, if_false]
  split
  · rfl
  · simp

theorem length_lt_child (h : IsName n) : p.bytes.length < (p.child n).bytes.length := by
  have hn := List.length_pos_iff.mpr h.ne_nil
  rw [child_bytes h, List.length_append, stem]
  split
  · omega
  · rw [List.length_append]
    omega

theorem split_child (h : IsName n) :
    ∃ parts, split slash (p.child n).bytes = parts ++ [n] ∧
      ∀ {β : Type} (f : Bytes → Option β), f [] = none →
        parts.filterMap f = (split slash p.bytes).filterMap f := by
  rw [child_bytes h, stem]
  have hn := split_eq_singleton h.no_slash
  split
  · next hp =>
      rcases hp with hp | hp
      -- The empty path has one part, which is no step; one with a slash at its end has an empty
      -- part behind the slash.
      · exact ⟨[], by rw [hp, List.nil_append, hn]; rfl, fun f hf => by simp [hp, split, hf]⟩
      · obtain ⟨a, ha⟩ := List.getLast?_eq_some_iff.mp hp
        refine ⟨split slash a, ?_, fun f hf => ?_⟩
        · rw [ha, List.append_assoc, List.singleton_append, split_append, hn]
        · rw [ha, split_append, List.filterMap_append]
          simp [split, hf]
  · refine ⟨split slash p.bytes, ?_, fun f hf => rfl⟩
    rw [List.append_assoc, List.singleton_append, split_append, hn]

/-- The steps of a path without the demand of a slash at its end. -/
def way (p : Path) : List Step := (split slash p.bytes).filterMap Step.ofPart?

theorem steps_eq (p : Path) :
    p.steps = p.way ++ if p.bytes.getLast? = some slash then [.close] else [] := rfl

/-- Slashes behind a path are no steps of their own. -/
theorem way_append_slashes (p : Path) (k : Nat) :
    way ⟨p.bytes ++ List.replicate k slash⟩ = p.way := by
  have hslashes : ∀ k, (split slash (List.replicate k slash)).filterMap Step.ofPart? = [] := by
    intro k
    induction k with
    | zero => rfl
    | succ k ih => rw [List.replicate_succ, split, if_pos rfl, List.filterMap_cons_none rfl, ih]
  cases k with
  | zero => rw [List.replicate_zero, List.append_nil]
  | succ k =>
      rw [way, List.replicate_succ, split_append, List.filterMap_append, hslashes, List.append_nil]
      rfl

/-- **The steps of a name in a directory** are those of the directory and one into the name. -/
theorem steps_child (h : IsName n) : (p.child n).steps = p.way ++ [.enter n] := by
  obtain ⟨parts, hsplit, hparts⟩ := split_child (p := p) h
  have hlast : (p.child n).bytes.getLast? ≠ some slash := by
    rw [child_bytes h, List.getLast?_append, List.getLast?_eq_some_getLast h.ne_nil]
    exact fun hn => h.no_slash (Option.some.inj hn ▸ List.getLast_mem h.ne_nil)
  rw [steps, hsplit, if_neg hlast, List.append_nil, List.filterMap_append, hparts _ rfl]
  simp [way, h.step]

theorem isAbsolute_child (h : IsName n) (hp : p.bytes ≠ []) :
    (p.child n).isAbsolute = p.isAbsolute := by
  obtain ⟨b, r, hb⟩ := List.exists_cons_of_ne_nil hp
  rw [isAbsolute, isAbsolute, child_bytes h, stem, hb]
  split <;> rfl

/-- **The file name of a name in a directory** is the name. -/
theorem fileName?_child (h : IsName n) : (p.child n).fileName? = some n := by
  obtain ⟨parts, hsplit, -⟩ := split_child (p := p) h
  have hbody : (split slash (p.child n).bytes).filterMap Component.ofPart? =
      parts.filterMap Component.ofPart? ++ [.name n] := by
    rw [hsplit, List.filterMap_append]
    simp [h.component]
  have hlast : (p.child n).components.getLast? = some (.name n) := by
    rw [components, hbody]
    split
    · simp [List.getLast?_cons]
    · split <;> simp [List.getLast?_cons]
  rw [fileName?, hlast]

/-- Two names in one directory with one path are the same name. -/
theorem eq_of_child_eq {m : Bytes} (hn : IsName n) (hm : IsName m) (h : p.child n = p.child m) :
    n = m := by
  have hnames : some n = some m := by
    rw [← fileName?_child (p := p) hn, h, fileName?_child hm]
  exact Option.some.inj hnames

/-! ### Stem and extension -/

theorem stem?_child (h : IsName n) : (p.child n).stem? = some (divide n).1 := by
  rw [stem?, fileName?_child h, Option.map_some]

theorem extension?_child (h : IsName n) : (p.child n).extension? = (divide n).2 := by
  rw [extension?, fileName?_child h, Option.bind_some]

theorem dropTail_child (h : IsName n) :
    dropTail (p.child n).bytes.reverse = (p.child n).bytes.reverse := by
  rw [child_bytes h, List.reverse_append]
  cases hrev : n.reverse with
  | nil => exact absurd (List.reverse_eq_nil_iff.mp hrev) h.ne_nil
  | cons b r =>
      have hslash : ∀ x ∈ b :: r, x ≠ slash := fun x hx hs =>
        h.no_slash (List.mem_reverse.mp (hrev ▸ hs ▸ hx))
      have hb : b ≠ slash := hslash b List.mem_cons_self
      cases r with
      | nil =>
          -- A single character is dropped if it is a dot, which is no name.
          have hdot : b ≠ dot := fun hd => h.ne_dot (by
            rw [← List.reverse_reverse n, hrev, hd]
            rfl)
          cases p.stem.reverse <;> simp [dropTail, hb, hdot]
      | cons c r =>
          have hc : c ≠ slash := hslash c (by simp)
          simp [dropTail, hb, hc]

/-- **A name in a directory with another extension** is another name in the directory. -/
theorem withExtension_child {ext : Bytes} (h : IsName n) (hext : ext ≠ [])
    (hnew : IsName ((divide n).1 ++ dot :: ext)) :
    (p.child n).withExtension ext = p.child ((divide n).1 ++ dot :: ext) := by
  have hbytes : (p.child n).bytes.reverse.drop n.length = p.stem.reverse := by
    rw [child_bytes h, List.reverse_append, ← List.length_reverse, List.drop_left]
  rw [withExtension, fileName?_child h]
  simp only [dropTail_child h, hbytes, List.reverse_reverse, if_neg hext]
  rw [List.append_assoc, ← child_bytes hnew]

end RecordingIndex.Path
