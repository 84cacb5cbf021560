import Mathlib.Data.List.Induction
import Mathlib.Data.Nat.Digits.Defs
import RecordingIndex.Proofs.Path.Name
import RecordingIndex.Proofs.Text.Utf8
import RecordingIndex.Segment.Basic

/-!
# Proofs — Segment — the grammar of names

A name is *spelled* as text, an underscore, digits, a dot and an extension (`Spells`); the text
itself may hold underscores and dots.  A name has a number if it is spelled so and the value of its
digits fits into 64 bits (`idOf?_eq_some_iff`), and it is spelled so in one way at most
(`Spells.unique`).  So what is said of a path can be read off the name that it ends in
(`reads_idOf`).
-/

namespace RecordingIndex.Segment

open RecordingIndex.Path (EndsIn dot)

variable {ds front digits ext front' digits' ext' name stem : Bytes} {p : Path} {id : UInt64}
  {k : Nat}

/-! ### Numbers -/

/-- A byte is a decimal digit. -/
def IsDigit (b : UInt8) : Prop := 0x30 ≤ b ∧ b ≤ 0x39

instance (b : UInt8) : Decidable (IsDigit b) := inferInstanceAs (Decidable (_ ∧ _))

/-- The value of decimal digits. -/
def value (ds : Bytes) : Nat := Nat.ofDigits 10 (ds.map fun b => b.toNat - 0x30).reverse

theorem value_concat (ds : Bytes) (b : UInt8) :
    value (ds ++ [b]) = value ds * 10 + (b.toNat - 0x30) := by
  rw [value, List.map_append, List.map_singleton, List.reverse_concat, Nat.ofDigits_cons, value]
  omega

theorem digit?_eq_some_iff {b : UInt8} : digit? b = some k ↔ IsDigit b ∧ b.toNat - 0x30 = k := by
  simp [digit?, IsDigit]

/-- **Digits** are read for their value. -/
theorem number?_eq_some_iff :
    number? ds = some k ↔ ds ≠ [] ∧ (∀ b ∈ ds, IsDigit b) ∧ value ds = k := by
  have hstep : ∀ (acc : Option Nat) (b : UInt8) (k : Nat),
      (do let n ← acc; let d ← digit? b; pure (n * 10 + d)) = some k ↔
        ∃ n, acc = some n ∧ IsDigit b ∧ n * 10 + (b.toNat - 0x30) = k := by
    intro acc b k
    cases acc <;> simp [Option.bind_eq_some_iff, digit?_eq_some_iff]
  -- The digits are taken from the left, so the induction adds the last one.
  have hfold : ∀ k, ds.foldl (fun acc b => do
      let n ← acc; let d ← digit? b; pure (n * 10 + d)) (some 0) = some k ↔
        (∀ b ∈ ds, IsDigit b) ∧ value ds = k := by
    induction ds using List.reverseRecOn with
    | nil => simp [value]
    | append_singleton ds b ih =>
        intro k
        rw [List.foldl_append, List.foldl_cons, List.foldl_nil, hstep, value_concat]
        constructor
        · rintro ⟨n, hn, hb, rfl⟩
          obtain ⟨hds, rfl⟩ := (ih n).mp hn
          exact ⟨List.forall_mem_append.mpr ⟨hds, by simpa using hb⟩, rfl⟩
        · rintro ⟨hall, rfl⟩
          obtain ⟨hds, hb⟩ := List.forall_mem_append.mp hall
          exact ⟨value ds, (ih _).mpr ⟨hds, rfl⟩, by simpa using hb, rfl⟩
  rw [number?]
  by_cases hnil : ds = []
  · simp [hnil]
  · rw [if_neg hnil, hfold]
    simp [hnil]

/-! ### Dividing at the underscore -/

theorem divideStem?_append (h : underscore ∉ digits) :
    divideStem? (front ++ underscore :: digits) = some (front, digits) := by
  obtain ⟨q, r, hr⟩ := List.exists_cons_of_ne_nil
    (List.reverse_ne_nil_iff.mpr (Path.split_ne_nil underscore front))
  have hwhole : [underscore].intercalate (q :: r).reverse = front := by
    rw [← hr, List.reverse_reverse, Path.intercalate_split]
  rw [divideStem?, Path.reverse_split h, hr]
  simp only [hwhole]

/-- A stem is divided at its last underscore. -/
theorem divideStem?_eq_some_iff :
    divideStem? stem = some (front, digits) ↔
      stem = front ++ underscore :: digits ∧ underscore ∉ digits := by
  constructor
  · intro h
    rcases Path.exists_last_or_not_mem underscore stem with ⟨a, b, rfl, hb⟩ | hnone
    · rw [divideStem?_append hb] at h
      cases h
      exact ⟨rfl, hb⟩
    · rw [divideStem?, Path.split_eq_singleton hnone] at h
      cases h
  · rintro ⟨rfl, h⟩
    exact divideStem?_append h

/-! ### Names -/

theorem isText_of_decimal : ∀ {ds : Bytes}, (∀ b ∈ ds, IsDigit b) → Utf8.IsText ds
  | [],      _ => ⟨"", rfl⟩
  | b :: ds, h => by
      have hb : b.toNat < 0x80 := Nat.lt_of_le_of_lt (h b List.mem_cons_self).2 (by decide)
      have hnil : Utf8.IsText [] := ⟨"", rfl⟩
      exact (Utf8.isText_append_cons_iff (a := []) hb).mpr
        ⟨hnil, isText_of_decimal fun c hc => h c (List.mem_cons_of_mem b hc)⟩

/-- The name is text, an underscore, digits, a dot and an extension. -/
structure Spells (name front digits ext : Bytes) : Prop where
  eq        : name = front ++ underscore :: digits ++ dot :: ext
  text      : Utf8.IsText front
  begun     : front ≠ []
  number    : digits ≠ []
  decimal   : ∀ b ∈ digits, IsDigit b
  extension : dot ∉ ext

namespace Spells

theorem underscore_not_mem (h : Spells name front digits ext) : underscore ∉ digits := by
  intro hmem
  exact absurd (h.decimal _ hmem) (by decide)

theorem divide (h : Spells name front digits ext) :
    Path.divide name = (front ++ underscore :: digits, some ext) :=
  Path.divide_eq_iff.mpr ⟨by simp, h.eq, h.extension⟩

theorem divideStem? (h : Spells name front digits ext) :
    Segment.divideStem? (front ++ underscore :: digits) = some (front, digits) :=
  divideStem?_append h.underscore_not_mem

theorem isText_stem (h : Spells name front digits ext) :
    Utf8.IsText (front ++ underscore :: digits) :=
  (Utf8.isText_append_cons_iff (by decide)).mpr ⟨h.text, isText_of_decimal h.decimal⟩

/-- With an extension that is text, the whole name is. -/
theorem isText (h : Spells name front digits ext) (hext : Utf8.IsText ext) :
    Utf8.IsText name := by
  rw [h.eq]
  exact (Utf8.isText_append_cons_iff (by decide)).mpr ⟨h.isText_stem, hext⟩

/-- **A name is spelled in one way.** -/
theorem unique (h : Spells name front digits ext) (h' : Spells name front' digits' ext') :
    front = front' ∧ digits = digits' ∧ ext = ext' := by
  have hdivide := h.divide.symm.trans h'.divide
  rw [Prod.mk.injEq, Option.some.injEq] at hdivide
  have hstem := h.divideStem?
  rw [hdivide.1, h'.divideStem?, Option.some.injEq, Prod.mk.injEq] at hstem
  exact ⟨hstem.1.symm, hstem.2.symm, hdivide.2⟩

end Spells

/-- **A name has a number** if it is spelled with one that fits. -/
theorem idOf?_eq_some_iff (hp : p.EndsIn name) :
    idOf? p = some id ↔ ∃ front digits ext, Spells name front digits ext ∧
      value digits = id.toNat := by
  have hname := Path.fileName?_eq_some_iff.mpr hp
  constructor
  · intro h
    obtain ⟨stem, hstem, h⟩ := Option.bind_eq_some_iff.mp h
    obtain ⟨ext, hext, h⟩ := Option.bind_eq_some_iff.mp h
    obtain ⟨cs, hdecode, h⟩ := Option.bind_eq_some_iff.mp h
    obtain ⟨⟨front, digits⟩, hparts, h⟩ := Option.bind_eq_some_iff.mp h
    obtain ⟨k, hnumber, hfits⟩ := Option.bind_eq_some_iff.mp h
    clear h
    rw [Path.stem?, hname, Option.map_some, Option.some.injEq] at hstem
    rw [Path.extension?, hname, Option.bind_some] at hext
    obtain ⟨-, hdivide, hdot⟩ := Path.divide_eq_iff.mp (Prod.ext hstem hext)
    obtain ⟨rfl, -⟩ := divideStem?_eq_some_iff.mp hparts
    obtain ⟨hne, hdecimal, hvalue⟩ := number?_eq_some_iff.mp hnumber
    have htext : Utf8.IsText (front ++ underscore :: digits) := by
      rw [Utf8.isText_iff, hdecode]
      rfl
    split at hfits
    · next hk =>
        cases hfits
        refine ⟨front, digits, ext, ⟨hdivide, ?_, hk.1, hne, hdecimal, hdot⟩, ?_⟩
        · exact ((Utf8.isText_append_cons_iff (by decide)).mp htext).1
        · rw [hvalue, UInt64.toNat_ofNat_of_lt' hk.2]
    · cases hfits
  · rintro ⟨front, digits, ext, hspells, hvalue⟩
    have hstem : p.stem? = some (front ++ underscore :: digits) := by
      rw [Path.stem?, hname, Option.map_some, hspells.divide]
    have hext : p.extension? = some ext := by
      rw [Path.extension?, hname, Option.bind_some, hspells.divide]
    obtain ⟨cs, hcs⟩ := Option.isSome_iff_exists.mp (Utf8.isText_iff.mp hspells.isText_stem)
    have hnumber : number? digits = some id.toNat :=
      number?_eq_some_iff.mpr ⟨hspells.number, hspells.decimal, hvalue⟩
    have hfits : front ≠ [] ∧ id.toNat < UInt64.size := ⟨hspells.begun, id.toNat_lt⟩
    rw [idOf?, hstem, Option.bind_eq_bind, Option.bind_some, hext]
    simp [hcs, hspells.divideStem?, hnumber, hfits]

/-! ### Paths -/

/-- What is read off a path is the number in the name that it ends in, or a complaint about that
name. -/
structure Reads (p : Path) (r : Except Failure UInt64) : Prop where
  numbered  : ∀ id, r = .ok id ↔ ∃ name front digits ext,
                p.EndsIn name ∧ Spells name front digits ext ∧ value digits = id.toNat
  unique    : ∀ name name' front front' digits digits' ext ext',
                p.EndsIn name → Spells name front digits ext →
                p.EndsIn name' → Spells name' front' digits' ext' →
                front = front' ∧ digits = digits' ∧ ext = ext'
  malformed : ∀ name, p.EndsIn name →
                (∀ front digits ext, Spells name front digits ext → 2 ^ 64 ≤ value digits) →
                r = .error (.malformedSegmentName (Utf8.toStringLossy name))
  nameless  : (∀ name, ¬p.EndsIn name) → r = .error (.malformedSegmentName "")

theorem idOf_eq_ok_iff : idOf p = .ok id ↔ idOf? p = some id := by
  rw [idOf]
  cases idOf? p <;> simp

theorem exists_endsIn_of_idOf? (h : idOf? p = some id) : ∃ name, p.EndsIn name := by
  obtain ⟨stem, hstem, -⟩ := Option.bind_eq_some_iff.mp h
  obtain ⟨name, hname, -⟩ := Option.map_eq_some_iff.mp hstem
  exact ⟨name, Path.fileName?_eq_some_iff.mp hname⟩

/-- **The number of a file** is that in the name that its path ends in. -/
theorem reads_idOf (p : Path) : Reads p (idOf p) where
  numbered id := by
    rw [idOf_eq_ok_iff]
    constructor
    · intro h
      obtain ⟨name, hp⟩ := exists_endsIn_of_idOf? h
      obtain ⟨front, digits, ext, hspells, hvalue⟩ := (idOf?_eq_some_iff hp).mp h
      exact ⟨name, front, digits, ext, hp, hspells, hvalue⟩
    · rintro ⟨name, front, digits, ext, hp, hspells, hvalue⟩
      exact (idOf?_eq_some_iff hp).mpr ⟨front, digits, ext, hspells, hvalue⟩
  unique name name' _ _ _ _ _ _ hp hspells hp' hspells' := by
    have hname := (Path.fileName?_eq_some_iff.mpr hp).symm.trans
      (Path.fileName?_eq_some_iff.mpr hp')
    cases hname
    exact hspells.unique hspells'
  malformed name hp hlarge := by
    have hnone : idOf? p = none := by
      refine Option.eq_none_iff_forall_ne_some.mpr fun id hid => ?_
      obtain ⟨front, digits, ext, hspells, hvalue⟩ := (idOf?_eq_some_iff hp).mp hid
      have hge := hlarge front digits ext hspells
      have hlt := id.toNat_lt
      omega
    rw [idOf, hnone, Path.fileNameLossy, Path.fileName?_eq_some_iff.mpr hp]
    rfl
  nameless hno := by
    have hnone : idOf? p = none :=
      Option.eq_none_iff_forall_ne_some.mpr fun id hid =>
        (exists_endsIn_of_idOf? hid).elim fun name hp => hno name hp
    have hname : p.fileName? = none :=
      Option.eq_none_iff_forall_ne_some.mpr fun name hname =>
        hno name (Path.fileName?_eq_some_iff.mp hname)
    rw [idOf, hnone, Path.fileNameLossy, hname]
    rfl

/-- Neither what stands behind the name nor the zeros before the number count. -/
example : idOf (.ofString "/r/a.b_c_007.db3//.") = .ok 7 := rfl

end RecordingIndex.Segment
