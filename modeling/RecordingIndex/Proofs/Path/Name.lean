import RecordingIndex.Proofs.Path.Child

/-!
# Proofs — Path — file names

A path *ends in* a name if nothing but slashes and dots stands behind the name (`EndsIn`); that name
is its file name (`fileName?_eq_some_iff`).  A name that has an extension is divided at its last
dot, which is not its first character (`divide_eq_iff`).
-/

namespace RecordingIndex.Path

variable {sep : UInt8} {p : Path} {n front last stem ext part : Bytes}

/-! ### The last part -/

/-- The path ends in the name: the parts behind it are empty or dots. -/
structure EndsIn (p : Path) (n : Bytes) : Prop where
  name  : IsName n
  parts : ∃ before after : List Bytes, p.bytes = [slash].intercalate (before ++ n :: after) ∧
            ∀ part ∈ after, part = [] ∨ part = [dot]

theorem ofPart?_eq_name_iff (h : slash ∉ part) :
    Component.ofPart? part = some (.name n) ↔ part = n ∧ IsName n := by
  constructor
  · intro hpart
    rw [Component.ofPart?] at hpart
    split at hpart
    · cases hpart
    next hskip =>
    split at hpart
    · cases hpart
    next hdots =>
    cases hpart
    exact ⟨rfl, fun hnil => hskip (.inl hnil), fun hdot => hskip (.inr hdot), hdots, h⟩
  · rintro ⟨rfl, hn⟩
    exact hn.component

theorem ofPart?_eq_none_iff : Component.ofPart? part = none ↔ part = [] ∨ part = [dot] := by
  rw [Component.ofPart?]
  by_cases hskip : part = [] ∨ part = [dot]
  · simp [hskip]
  · rw [if_neg hskip]
    split <;> simp [hskip]

/-- The root and a dot at the start are no names. -/
theorem fileName?_eq_some_iff_getLast? :
    p.fileName? = some n ↔
      ((split slash p.bytes).filterMap Component.ofPart?).getLast? = some (.name n) := by
  have hlast : ∀ (c : Component) (body : List Component), (∀ m, c ≠ .name m) →
      ((c :: body).getLast? = some (.name n) ↔ body.getLast? = some (.name n)) := by
    intro c body hc
    cases body with
    | nil => simp [hc n]
    | cons d body => rw [List.getLast?_cons_cons]
  have hcomponents : p.components.getLast? = some (.name n) ↔
      ((split slash p.bytes).filterMap Component.ofPart?).getLast? = some (.name n) := by
    rw [components]
    split
    · exact hlast .root _ fun m => by simp
    split
    · exact hlast .current _ fun m => by simp
    · exact Iff.rfl
  rw [← hcomponents, fileName?]
  split
  · next m hm => simp [hm]
  · next hm => exact iff_of_false (by simp) fun hn => hm n hn

theorem split_intercalate (sep : UInt8) : ∀ {parts : List Bytes}, parts ≠ [] →
    split sep ([sep].intercalate parts) = parts.flatMap (split sep)
  | [],          h => absurd rfl h
  | [a],         _ => by simp [List.intercalate]
  | a :: b :: r, _ => by
      rw [intercalate_cons _ _ (by simp), List.append_assoc, List.singleton_append, split_append,
        split_intercalate sep (List.cons_ne_nil b r)]
      rfl

/-- **The file name** of a path is the name that it ends in. -/
theorem fileName?_eq_some_iff : p.fileName? = some n ↔ p.EndsIn n := by
  rw [fileName?_eq_some_iff_getLast?]
  constructor
  · intro h
    obtain ⟨front, hfront⟩ := List.getLast?_eq_some_iff.mp h
    obtain ⟨before, rest, hsplit, -, hrest⟩ := List.filterMap_eq_append_iff.mp hfront
    obtain ⟨skipped, part, after, rfl, -, hpart, hafter⟩ := List.filterMap_eq_cons_iff.mp hrest
    have hmem : part ∈ split slash p.bytes := by simp [hsplit]
    obtain ⟨rfl, hname⟩ := (ofPart?_eq_name_iff (not_mem_of_mem_split hmem)).mp hpart
    refine ⟨hname, before ++ skipped, after, ?_, fun q hq => ?_⟩
    · conv => lhs; rw [← intercalate_split slash p.bytes, hsplit]
      rw [List.append_assoc]
    · exact ofPart?_eq_none_iff.mp (List.filterMap_eq_nil_iff.mp hafter q hq)
  · rintro ⟨hname, before, after, hbytes, hafter⟩
    have hsplitAfter : after.flatMap (split slash) = after := by
      have hparts : after.map (split slash) = after.map fun part => [part] := by
        refine List.map_congr_left fun part hpart => ?_
        rcases hafter part hpart with rfl | rfl <;> rfl
      rw [List.flatMap_def, hparts, ← List.flatMap_def, List.flatMap_singleton']
    have hsplit : split slash p.bytes = before.flatMap (split slash) ++ n :: after := by
      rw [hbytes, split_intercalate slash (by simp), List.flatMap_append, List.flatMap_cons,
        split_eq_singleton hname.no_slash, List.singleton_append, hsplitAfter]
    have hnone : after.filterMap Component.ofPart? = [] :=
      List.filterMap_eq_nil_iff.mpr fun part hpart => ofPart?_eq_none_iff.mpr (hafter part hpart)
    rw [hsplit, List.filterMap_append, List.filterMap_cons_some hname.component, hnone]
    simp

/-! ### Dividing at the last separator -/

/-- What is divided has a last separator, or none. -/
theorem exists_last_or_not_mem (sep : UInt8) (b : Bytes) :
    (∃ front last, b = front ++ sep :: last ∧ sep ∉ last) ∨ sep ∉ b := by
  by_cases h : sep ∈ b
  · obtain ⟨last, front, hb, hlast⟩ := List.eq_append_cons_of_mem (List.mem_reverse.mpr h)
    refine .inl ⟨front.reverse, last.reverse, ?_, by simpa using hlast⟩
    rw [← List.reverse_reverse b, hb]
    simp
  · exact .inr h

theorem reverse_split (h : sep ∉ last) :
    (split sep (front ++ sep :: last)).reverse = last :: (split sep front).reverse := by
  rw [split_append, split_eq_singleton h]
  simp

theorem divide_append (h : dot ∉ ext) (hstem : stem ≠ []) :
    divide (stem ++ dot :: ext) = (stem, some ext) := by
  obtain ⟨q, r, hr⟩ := List.exists_cons_of_ne_nil
    (List.reverse_ne_nil_iff.mpr (split_ne_nil dot stem))
  have hwhole : [dot].intercalate (q :: r).reverse = stem := by
    rw [← hr, List.reverse_reverse, intercalate_split]
  rw [divide, reverse_split h, hr]
  simp only [hwhole, if_neg hstem]

theorem divide_hidden (h : dot ∉ ext) : divide (dot :: ext) = (dot :: ext, none) := by
  have hreverse : (split dot ([] ++ dot :: ext)).reverse = ext :: (split dot []).reverse :=
    reverse_split h
  rw [List.nil_append] at hreverse
  rw [divide, hreverse]
  rfl

theorem divide_of_not_mem (h : dot ∉ n) : divide n = (n, none) := by
  rw [divide, split_eq_singleton h]
  rfl

/-- **A name with an extension** is divided at its last dot, which is not its first character. -/
theorem divide_eq_iff :
    divide n = (stem, some ext) ↔ stem ≠ [] ∧ n = stem ++ dot :: ext ∧ dot ∉ ext := by
  constructor
  · intro h
    rcases exists_last_or_not_mem dot n with ⟨front, last, rfl, hlast⟩ | hdot
    · by_cases hfront : front = []
      · rw [hfront, List.nil_append, divide_hidden hlast] at h
        cases h
      · rw [divide_append hlast hfront] at h
        cases h
        exact ⟨hfront, rfl, hlast⟩
    · rw [divide_of_not_mem hdot] at h
      cases h
  · rintro ⟨hstem, rfl, hext⟩
    exact divide_append hext hstem

end RecordingIndex.Path
