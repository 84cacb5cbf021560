import Mathlib.Data.List.Nodup
import RecordingIndex.Yaml.Node
import RecordingIndex.Yaml.Scalar

/-!
# Proofs — Yaml — simple trees

A tree is *simple* if it has no references and no tags, and if the keys of each of its mappings are
scalars that differ (`Node.IsSimple`).  Two keys are the same if they are written with the same
characters and stand for the same value, so `1` and `"1"` differ while `name` and `"name"` do not.

A simple tree is whole (`Node.IsSimple.isWhole`), and what one of its mappings has under a name is
one node (`Node.IsSimple.has_unique`).
-/

namespace RecordingIndex.Yaml

/-- What an untagged scalar stands for: a quoted one for its characters, whatever they are. -/
def Reading.ofScalar (cs : List Char) (spelling : Spelling) : Reading :=
  if spelling = .plain then .of cs else .text

theorem Reading.ofScalar_of_text {cs : List Char} (h : Reading.of cs = .text)
    (spelling : Spelling) : Reading.ofScalar cs spelling = .text := by
  rw [Reading.ofScalar, h, ite_self]

namespace Node

/-- Two keys are written alike and stand for the same value. -/
def SameKey : Node → Node → Prop
  | .scalar _ cs spelling, .scalar _ cs' spelling' =>
      cs = cs' ∧ Reading.ofScalar cs spelling = Reading.ofScalar cs' spelling'
  | _, _ => False

/-- The key is a scalar without a tag. -/
def IsKey (k : Node) : Prop := ∃ cs spelling, k = .scalar none cs spelling

/-- A tree without references and tags, whose mappings have scalars that differ as keys. -/
inductive IsSimple : Node → Prop
  | scalar (cs : List Char) (spelling : Spelling) : IsSimple (.scalar none cs spelling)
  | sequence {items : List Node} (hitems : ∀ n ∈ items, IsSimple n) : IsSimple (.sequence items)
  | mapping {entries : List (Node × Node)} (hkeys : ∀ e ∈ entries, e.1.IsKey)
      (hvalues : ∀ e ∈ entries, IsSimple e.2)
      (hdistinct : entries.Pairwise fun e e' => ¬ SameKey e.1 e'.1) : IsSimple (.mapping entries)

variable {n v v' : Node} {key : String} {es : List (Node × Node)}

/-! ### Whole trees -/

theorem areWhole_iff : ∀ {ns : List Node}, areWhole ns = true ↔ ∀ n ∈ ns, n.isWhole = true
  | []      => by simp [areWhole]
  | n :: ns => by rw [areWhole, Bool.and_eq_true, areWhole_iff, List.forall_mem_cons]

theorem entriesAreWhole_iff : ∀ {es : List (Node × Node)},
    entriesAreWhole es = true ↔ ∀ e ∈ es, e.1.isWhole = true ∧ e.2.isWhole = true
  | []          => by simp [entriesAreWhole]
  | (k, v) :: es => by
      rw [entriesAreWhole, Bool.and_eq_true, Bool.and_eq_true, entriesAreWhole_iff,
        List.forall_mem_cons]

theorem IsKey.isWhole (h : n.IsKey) : n.isWhole = true := by
  obtain ⟨cs, spelling, rfl⟩ := h
  rw [Node.isWhole]

theorem IsSimple.isWhole (h : n.IsSimple) : n.isWhole = true := by
  induction h with
  | scalar cs spelling => rw [Node.isWhole]
  | sequence hitems ih =>
      rw [Node.isWhole]
      exact areWhole_iff.mpr ih
  | mapping hkeys hvalues hdistinct ih =>
      rw [Node.isWhole]
      exact entriesAreWhole_iff.mpr fun e he => ⟨(hkeys e he).isWhole, ih e he⟩

/-! ### What a mapping has under a name -/

/-- An entry is the one of a name. -/
def IsEntry (key : String) (v : Node) (e : Node × Node) : Prop :=
  ∃ spelling, e = (.scalar none key.toList spelling, v)

/-- The node is a mapping with an entry of a name. -/
def Has (n : Node) (key : String) (v : Node) : Prop :=
  ∃ es, n = .mapping es ∧ ∃ e ∈ es, IsEntry key v e

theorem has_mapping : (mapping es).Has key v ↔ ∃ e ∈ es, IsEntry key v e := by
  simp [Has]

theorem has_cons {e : Node × Node} :
    (mapping (e :: es)).Has key v ↔ IsEntry key v e ∨ (mapping es).Has key v := by
  rw [has_mapping, has_mapping, List.exists_mem_cons_iff]

theorem has_cons_self {spelling : Spelling} :
    (mapping ((.scalar none key.toList spelling, v) :: es)).Has key v :=
  has_cons.mpr (.inl ⟨spelling, rfl⟩)

theorem isEntry_iff {name : String} {spelling : Spelling} :
    IsEntry key v (.scalar none name.toList spelling, v') ↔ key = name ∧ v = v' := by
  constructor
  · rintro ⟨_, heq⟩
    simp only [Prod.mk.injEq, scalar.injEq, String.toList_inj] at heq
    exact ⟨heq.1.2.1.symm, heq.2.symm⟩
  · rintro ⟨rfl, rfl⟩
    exact ⟨spelling, rfl⟩

/-- Under other names, a mapping has the same without the entry. -/
theorem has_cons_of_ne {name : String} {spelling : Spelling} (hne : key ≠ name) :
    (mapping ((.scalar none name.toList spelling, v') :: es)).Has key v ↔
      (mapping es).Has key v := by
  simp [has_cons, isEntry_iff, hne]

theorem not_has_nil : ¬ (mapping []).Has key v := by
  simp [Has]

theorem not_has_scalar (tag : Option (List Char)) (cs : List Char) (spelling : Spelling) :
    ¬ (scalar tag cs spelling).Has key v := by
  simp [Has]

theorem not_has_sequence (items : List Node) : ¬ (sequence items).Has key v := by
  simp [Has]

/-- A key is the same in all its spellings if its characters stand for themselves. -/
theorem IsEntry.sameKey {e e' : Node × Node} (hkey : Reading.of key.toList = .text)
    (h : IsEntry key v e) (h' : IsEntry key v' e') : SameKey e.1 e'.1 := by
  obtain ⟨spelling, rfl⟩ := h
  obtain ⟨spelling', rfl⟩ := h'
  exact ⟨rfl, by rw [Reading.ofScalar_of_text hkey, Reading.ofScalar_of_text hkey]⟩

/-- Where keys differ, a name has one node. -/
theorem entry_unique (hkey : Reading.of key.toList = .text)
    (hdistinct : es.Pairwise fun e e' => ¬ SameKey e.1 e'.1) (h : ∃ e ∈ es, IsEntry key v e)
    (h' : ∃ e ∈ es, IsEntry key v' e) : v = v' := by
  induction es with
  | nil => simp at h
  | cons e es ih =>
      obtain ⟨hhead, htail⟩ := List.pairwise_cons.mp hdistinct
      obtain ⟨x, hx, hv⟩ := h
      obtain ⟨x', hx', hv'⟩ := h'
      rcases List.mem_cons.mp hx with rfl | hmem <;>
        rcases List.mem_cons.mp hx' with rfl | hmem'
      · obtain ⟨_, rfl⟩ := hv
        obtain ⟨_, heq⟩ := hv'
        exact (Prod.mk.inj heq).2
      · exact absurd (hv.sameKey hkey hv') (hhead x' hmem')
      · exact absurd (hv'.sameKey hkey hv) (hhead x hmem)
      · exact ih htail ⟨x, hmem, hv⟩ ⟨x', hmem', hv'⟩

theorem IsSimple.has_unique (h : n.IsSimple) (hkey : Reading.of key.toList = .text)
    (hv : n.Has key v) (hv' : n.Has key v') : v = v' := by
  obtain ⟨es, rfl, hv⟩ := hv
  cases h with
  | mapping _ _ hdistinct => exact entry_unique hkey hdistinct hv (has_mapping.mp hv')

theorem isSimple_cons_iff {e : Node × Node} :
    (mapping (e :: es)).IsSimple ↔ e.1.IsKey ∧ e.2.IsSimple ∧ (mapping es).IsSimple ∧
      ∀ e' ∈ es, ¬ SameKey e.1 e'.1 := by
  constructor
  · rintro (_ | _ | ⟨hkeys, hvalues, hdistinct⟩)
    obtain ⟨hkey, hkeys⟩ := List.forall_mem_cons.mp hkeys
    obtain ⟨hvalue, hvalues⟩ := List.forall_mem_cons.mp hvalues
    obtain ⟨hhead, hdistinct⟩ := List.pairwise_cons.mp hdistinct
    exact ⟨hkey, hvalue, .mapping hkeys hvalues hdistinct, hhead⟩
  · rintro ⟨hkey, hvalue, _ | _ | ⟨hkeys, hvalues, hdistinct⟩, hhead⟩
    exact .mapping (List.forall_mem_cons.mpr ⟨hkey, hkeys⟩)
      (List.forall_mem_cons.mpr ⟨hvalue, hvalues⟩) (List.pairwise_cons.mpr ⟨hhead, hdistinct⟩)

/-- Under the name of its first entry, a simple mapping has nothing else. -/
theorem IsSimple.not_has_tail {spelling : Spelling}
    (h : (Node.mapping ((.scalar none key.toList spelling, v) :: es)).IsSimple)
    (hkey : Reading.of key.toList = .text) : ¬ (Node.mapping es).Has key v' := by
  intro hv
  obtain ⟨e, he, hentry⟩ := has_mapping.mp hv
  obtain ⟨-, -, -, hdistinct⟩ := isSimple_cons_iff.mp h
  exact hdistinct e he (IsEntry.sameKey hkey ⟨spelling, rfl⟩ hentry)

theorem IsSimple.of_has (h : n.IsSimple) (hv : n.Has key v) : v.IsSimple := by
  obtain ⟨es, rfl, e, he, spelling, rfl⟩ := hv
  cases h with
  | mapping _ hvalues _ => exact hvalues _ he

end Node

end RecordingIndex.Yaml
