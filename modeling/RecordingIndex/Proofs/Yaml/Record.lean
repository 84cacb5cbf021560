import RecordingIndex.Proofs.List
import RecordingIndex.Proofs.Yaml.Decision

/-!
# Proofs — Yaml — records decide what mappings mean

The fields of a record are the *slots* of a form, each with a name, a place in the form and a
meaning of the nodes that may fill it (`Slot`).  Slots are lawful if no two share a name or a place
(`Lawful`).  Then the entries of a simple mapping fill a form in which each slot holds what the
mapping says under its name, whatever the order of the entries and whatever stands under other
names (`Lawful.decides_entries`), and the record means what that form is finished to
(`Lawful.decides_record`).
-/

namespace RecordingIndex.Yaml

variable {α σ : Type}

theorem require_eq_ok_iff {name : String} {x : Option α} {a : α} :
    Mismatch.require name x = .ok a ↔ x = some a := by
  cases x <;> simp [Mismatch.require]

/-! ### What a mapping says under a name -/

namespace Node

/-- The mapping has a node under the name, and it means the value. -/
def Gives (n : Node) (key : String) (Means : Node → α → Prop) (a : α) : Prop :=
  ∃ v, n.Has key v ∧ Means v a

/-- The mapping gives a value under the name, or has nothing there. -/
def Says (n : Node) (key : String) (Means : Node → α → Prop) : Option α → Prop
  | some a => n.Gives key Means a
  | none   => ∀ v, ¬ n.Has key v

/-- The value is the one under the name, or `missing` if nothing is there. -/
def GivesOr (n : Node) (key : String) (missing : α) (Means : Node → α → Prop) (a : α) : Prop :=
  ∃ said, n.Says key Means said ∧ said.getD missing = a

variable {n : Node} {key : String} {Means : Node → α → Prop}

theorem Says.gives {said : Option α} {a : α} (h : n.Says key Means said) (ha : said = some a) :
    n.Gives key Means a := by
  subst ha
  exact h

theorem Says.unique (hn : n.IsSimple) (hkey : Reading.of key.toList = .text)
    (hmeans : ∀ {v a b}, v.IsSimple → Means v a → Means v b → a = b) :
    ∀ {x y : Option α}, n.Says key Means x → n.Says key Means y → x = y
  | none,   none,   _, _ => rfl
  | none,   some _, hx, ⟨v, hv, _⟩ => absurd hv (hx v)
  | some _, none,   ⟨v, hv, _⟩, hy => absurd hv (hy v)
  | some a, some b, ⟨v, hv, ha⟩, ⟨v', hv', hb⟩ => by
      obtain rfl := hn.has_unique hkey hv hv'
      rw [hmeans (hn.of_has hv) ha hb]

end Node

namespace Decoder

/-! ### Entries that are refused -/

variable {fields : List (Field σ)} {s s₁ s' : σ} {e : Node × Node} {es : List (Node × Node)}

/-- Entries break off a record in the making. -/
def Spoils (fields : List (Field σ)) (s : σ) (es : List (Node × Node)) : Prop :=
  ∀ d place fuel, ∃ c, (es.foldlM (entry fields d place) s).run fuel = .error c

namespace Spoils

theorem cons (hstep : Steps fields s e s₁) (h : Spoils fields s₁ es) :
    Spoils fields s (e :: es) := by
  intro d place fuel
  obtain ⟨c, hc⟩ := h d place fuel
  exact ⟨c, by rw [List.foldlM_cons, run_bind_of_ok (hstep d place fuel), hc]⟩

/-- An entry of a known key whose value is refused. -/
theorem named {key name : String} {spelling : Spelling} {n : Node} {get : σ → Option α}
    {put : α → σ → σ} {decoder : Decoder α}
    (hfind : fields.find? (·.name = key) = some (.named name get put decoder))
    (hfree : get s = none) (hread : Refuses decoder n) :
    Spoils fields s ((.scalar none key.toList spelling, n) :: es) := by
  intro d place fuel
  obtain ⟨c, hc⟩ := hread.map put d (place ++ [.key key.toList]) fuel
  have hfilled : (Field.named name get put decoder).isFilled s = false := isFilled_named hfree
  have hentry : (entry fields d place s (.scalar none key.toList spelling, n)).run fuel =
      .error c := by
    simp only [entry, Document.follow, pure_bind, String.ofList_toList, hfind, hfilled]
    rw [if_neg Bool.false_ne_true]
    exact run_bind_of_error hc
  exact ⟨c, by rw [List.foldlM_cons, run_bind_of_error hentry]⟩

end Spoils

variable {name : String} {finish : σ → Except Mismatch α} {m : Mismatch}

theorem refuses_record_of_spoils (h : Spoils fields s es) :
    Refuses (record name fields s finish) (.mapping es) := by
  intro d place fuel
  obtain ⟨c, hc⟩ := h d place fuel
  refine ⟨c, ?_⟩
  simp only [record, Document.follow, pure_bind]
  rw [run_bind_of_error hc]

theorem refuses_record_of_fills (h : Fills fields s es s') (hfinish : finish s' = .error m) :
    Refuses (record name fields s finish) (.mapping es) := by
  intro d place fuel
  have hfill := h d place fuel
  refine ⟨.mismatch place m, ?_⟩
  simp only [record, Document.follow, pure_bind]
  rw [run_bind_of_ok hfill, hfinish]
  rfl

/-- A value that is not there is a record without entries. -/
theorem refuses_record_scalar (tag : Option (List Char)) (cs : List Char) (spelling : Spelling)
    (hempty : finish s = .error m) :
    Refuses (record name fields s finish) (.scalar tag cs spelling) := by
  intro d place fuel
  rcases cs with _ | ⟨c, cs⟩
  · cases spelling with
    | plain =>
        refine ⟨.mismatch place m, ?_⟩
        simp only [record, Document.follow, pure_bind, hempty]
        rfl
    | literal => exact ⟨_, rfl⟩
    | quoted => exact ⟨_, rfl⟩
  · exact ⟨_, rfl⟩

/-! ### Slots -/

/-- A place of a form, with the name and the meaning of what fills it. -/
structure Slot (σ : Type) where
  {α : Type}
  name  : String
  get   : σ → Option α
  put   : α → σ → σ
  value : Decoder α
  Means : Node → α → Prop

namespace Slot

/-- The field that a slot is. -/
def field (x : Slot σ) : Field σ := .named x.name x.get x.put x.value

theorem field_name (x : Slot σ) : x.field.name = x.name := rfl

/-- Between two forms, a slot was filled with what a mapping gives, or left as it was. -/
inductive Filled (x : Slot σ) (n : Node) (s s' : σ) : Prop
  | given {v : Node} {a : x.α} (hhas : n.Has x.name v) (hmeans : x.Means v a)
      (hget : x.get s' = some a)
  | missing (hmissing : ∀ v, ¬ n.Has x.name v) (hget : x.get s' = x.get s)

/-- Entries of other names before the ones that fill a slot. -/
theorem Filled.extend {x : Slot σ} {n n' : Node} (h : x.Filled n s₁ s')
    (hhas : ∀ v, n'.Has x.name v ↔ n.Has x.name v) (hget : x.get s₁ = x.get s) :
    x.Filled n' s s' := by
  cases h with
  | given hv hmeans hsome => exact .given ((hhas _).mpr hv) hmeans hsome
  | missing hmissing hsame =>
      exact .missing (fun v hv => hmissing v ((hhas v).mp hv)) (hsame.trans hget)

end Slot

/-- The form has in each slot what a mapping says under the name. -/
def IsForm (slots : List (Slot σ)) (n : Node) (s : σ) : Prop :=
  ∀ x ∈ slots, n.Says x.name x.Means (x.get s)

/-- Slots that make up a form: they have names and places of their own, start empty, and decide
their meanings. -/
structure Lawful (slots : List (Slot σ)) (empty : σ) : Prop where
  text       : ∀ x ∈ slots, Reading.of x.name.toList = .text
  distinct   : (slots.map Slot.name).Nodup
  get_empty  : ∀ x ∈ slots, x.get empty = none
  get_put    : ∀ x ∈ slots, ∀ a s, x.get (x.put a s) = some a
  get_put_ne : ∀ x ∈ slots, ∀ y ∈ slots, y.name ≠ x.name → ∀ a s, y.get (x.put a s) = y.get s
  ext        : ∀ s s', (∀ x ∈ slots, x.get s = x.get s') → s = s'
  decides    : ∀ x ∈ slots, ∀ {n}, n.IsSimple → Decides x.value n (x.Means n)

namespace Lawful

variable {slots : List (Slot σ)} {empty : σ} (h : Lawful slots empty)
include h

theorem eq_of_name_eq {x y : Slot σ} (hx : x ∈ slots) (hy : y ∈ slots) (heq : x.name = y.name) :
    x = y := List.inj_on_of_nodup_map h.distinct hx hy heq

theorem find?_eq_some {x : Slot σ} (hx : x ∈ slots) :
    (slots.map Slot.field).find? (·.name = x.name) = some x.field := by
  have hfind : slots.find? (fun y => y.name = x.name) = some x :=
    (find?_eq_some_iff_of_nodup h.distinct).mpr ⟨hx, rfl⟩
  rw [List.find?_map]
  exact congrArg (Option.map Slot.field) hfind

omit h in
theorem find?_eq_none {key : String} (hkey : ∀ x ∈ slots, x.name ≠ key) :
    (slots.map Slot.field).find? (·.name = key) = none := by
  rw [List.find?_map, Option.map_eq_none_iff, List.find?_eq_none]
  exact fun x hx => mt of_decide_eq_true (hkey x hx)

/-- The first entry fills a slot, which no other entry fills again. -/
theorem filled_cons {x : Slot σ} {v : Node} {a : x.α} {spelling : Spelling} (hx : x ∈ slots)
    (hsimple : (Node.mapping ((.scalar none x.name.toList spelling, v) :: es)).IsSimple)
    (hmeans : x.Means v a) (hfilled : ∀ y ∈ slots, y.Filled (.mapping es) (x.put a s) s') :
    ∀ y ∈ slots, y.Filled (.mapping ((.scalar none x.name.toList spelling, v) :: es)) s s' := by
  intro y hy
  by_cases hname : y.name = x.name
  · obtain rfl := h.eq_of_name_eq hy hx hname
    cases hfilled y hy with
    | given hhas _ _ => exact absurd hhas (hsimple.not_has_tail (h.text y hy))
    | missing _ hget =>
        exact .given Node.has_cons_self hmeans (hget.trans (h.get_put y hy a s))
  · exact (hfilled y hy).extend (fun u => Node.has_cons_of_ne hname)
      (h.get_put_ne x hx y hy hname a s)

/-- **The entries of a mapping** fill the slots, up to the first that means nothing. -/
theorem decides_entries : ∀ {es : List (Node × Node)} {s : σ}, (Node.mapping es).IsSimple →
    (∀ x ∈ slots, ∀ v, (Node.mapping es).Has x.name v → x.get s = none) →
    (∃ s', Fills (slots.map Slot.field) s es s' ∧ ∀ x ∈ slots, x.Filled (.mapping es) s s') ∨
      Spoils (slots.map Slot.field) s es ∧
        ∃ x ∈ slots, ∃ v, (Node.mapping es).Has x.name v ∧ ∀ a, ¬ x.Means v a
  | [],             _, _, _ => .inl ⟨_, .nil, fun x _ => .missing (fun v => Node.not_has_nil) rfl⟩
  | (key, v) :: es, s, hsimple, hfree => by
      obtain ⟨⟨cs, spelling, rfl⟩, hvalue, htail, hdistinct⟩ := Node.isSimple_cons_iff.mp hsimple
      obtain ⟨name, rfl⟩ : ∃ name : String, cs = name.toList :=
        ⟨String.ofList cs, String.toList_ofList.symm⟩
      by_cases hknown : ∃ x ∈ slots, x.name = name
      · obtain ⟨x, hx, rfl⟩ := hknown
        have hhas : (Node.mapping ((.scalar none x.name.toList spelling, v) :: es)).Has x.name v :=
          Node.has_cons_self
        cases h.decides x hx hvalue with
        | refuses hrefuses hnone =>
            exact .inr ⟨.named (h.find?_eq_some hx) (hfree x hx v hhas) hrefuses, x, hx, v, hhas,
              hnone⟩
        | takes a htakes hmeans =>
            have hstep : Steps (slots.map Slot.field) s (.scalar none x.name.toList spelling, v)
                (x.put a s) := .named (h.find?_eq_some hx) (hfree x hx v hhas) htakes
            have hfree' : ∀ y ∈ slots, ∀ u, (Node.mapping es).Has y.name u →
                y.get (x.put a s) = none := by
              intro y hy u hu
              have hne : y.name ≠ x.name := by
                intro heq
                rw [heq] at hu
                exact hsimple.not_has_tail (h.text x hx) hu
              rw [h.get_put_ne x hx y hy hne]
              exact hfree y hy u ((Node.has_cons_of_ne hne).mpr hu)
            rcases decides_entries htail hfree' with
              ⟨s', hfills, hfilled⟩ | ⟨hspoils, y, hy, u, hu, hnone⟩
            · exact .inl ⟨s', .cons hstep hfills,
                h.filled_cons hx hsimple ((hmeans a).mpr rfl) hfilled⟩
            · exact .inr ⟨.cons hstep hspoils, y, hy, u, Node.has_cons.mpr (.inr hu), hnone⟩
      · have hne : ∀ x ∈ slots, x.name ≠ name := fun x hx heq => hknown ⟨x, hx, heq⟩
        have hstep : Steps (slots.map Slot.field) s (.scalar none name.toList spelling, v) s :=
          .unknown (find?_eq_none hne) hvalue.isWhole
        rcases decides_entries htail fun x hx u hu =>
            hfree x hx u ((Node.has_cons_of_ne (hne x hx)).mpr hu) with
          ⟨s', hfills, hfilled⟩ | ⟨hspoils, x, hx, u, hu, hnone⟩
        · exact .inl ⟨s', .cons hstep hfills, fun x hx =>
            (hfilled x hx).extend (fun u => Node.has_cons_of_ne (hne x hx)) rfl⟩
        · exact .inr ⟨.cons hstep hspoils, x, hx, u, Node.has_cons.mpr (.inr hu), hnone⟩

/-! ### Records -/

theorem isForm_of_filled {n : Node} (hfilled : ∀ x ∈ slots, x.Filled n empty s) :
    IsForm slots n s := by
  intro x hx
  cases hfilled x hx with
  | given hhas hmeans hget =>
      rw [hget]
      exact ⟨_, hhas, hmeans⟩
  | missing hmissing hget =>
      rw [hget, h.get_empty x hx]
      exact hmissing

/-- A simple mapping fills one form. -/
theorem isForm_unique {n : Node} (hn : n.IsSimple) (hs : IsForm slots n s)
    (hs' : IsForm slots n s') : s = s' := by
  refine h.ext s s' fun x hx => ?_
  exact Node.Says.unique hn (h.text x hx) (fun hv => (h.decides x hx hv).unique) (hs x hx)
    (hs' x hx)

theorem not_isForm {n v : Node} {x : Slot σ} (hn : n.IsSimple) (hx : x ∈ slots)
    (hhas : n.Has x.name v) (hnone : ∀ a, ¬ x.Means v a) : ¬ IsForm slots n s := by
  intro hform
  have hsays := hform x hx
  cases hget : x.get s with
  | none =>
      rw [hget] at hsays
      exact hsays v hhas
  | some a =>
      rw [hget] at hsays
      obtain ⟨v', hhas', hmeans⟩ := hsays
      obtain rfl := hn.has_unique (h.text x hx) hhas hhas'
      exact hnone a hmeans

/-- The only form of a node that is no mapping is empty. -/
theorem eq_empty_of_not_has {n : Node} (hno : ∀ key v, ¬ n.Has key v) (hform : IsForm slots n s) :
    s = empty := by
  refine h.ext s empty fun x hx => ?_
  rw [h.get_empty x hx]
  cases hget : x.get s with
  | none => rfl
  | some a =>
      have hsays := hform x hx
      rw [hget] at hsays
      obtain ⟨v, hhas, -⟩ := hsays
      exact absurd hhas (hno x.name v)

/-- **A record** means what the form that its entries fill is finished to; a rule that finishes the
empty form to nothing refuses all other nodes. -/
theorem decides_record {n : Node} (hempty : finish empty = .error m) (hn : n.IsSimple) :
    Decides (record name (slots.map Slot.field) empty finish) n fun a =>
      ∃ s, IsForm slots n s ∧ finish s = .ok a := by
  have hnone (hno : ∀ key v, ¬ n.Has key v) (a : α) :
      ¬ ∃ s, IsForm slots n s ∧ finish s = .ok a := by
    rintro ⟨s, hform, hfinish⟩
    rw [h.eq_empty_of_not_has hno hform, hempty] at hfinish
    cases hfinish
  cases hn with
  | sequence _ =>
      exact .refuses (fun _ _ _ => ⟨_, rfl⟩) (hnone fun _ _ => Node.not_has_sequence _)
  | scalar cs spelling =>
      exact .refuses (refuses_record_scalar none cs spelling hempty)
        (hnone fun _ _ => Node.not_has_scalar none cs spelling)
  | @mapping es hkeys hvalues hdistinct =>
      have hsimple : (Node.mapping es).IsSimple := .mapping hkeys hvalues hdistinct
      rcases h.decides_entries (s := empty) hsimple fun x hx _ _ => h.get_empty x hx with
        ⟨s, hfills, hfilled⟩ | ⟨hspoils, x, hx, v, hhas, hnone⟩
      · have hform := h.isForm_of_filled hfilled
        have hmeans (b : α) : (∃ s', IsForm slots (.mapping es) s' ∧ finish s' = .ok b) ↔
            finish s = .ok b := by
          constructor
          · rintro ⟨s', hform', hfinish⟩
            rwa [h.isForm_unique hsimple hform' hform] at hfinish
          · exact fun hfinish => ⟨s, hform, hfinish⟩
        cases hfinish : finish s with
        | ok a =>
            refine .takes a (takes_record hfills hfinish) fun b => ?_
            rw [hmeans, hfinish, Except.ok.injEq, eq_comm]
        | error m =>
            refine .refuses (refuses_record_of_fills hfills hfinish) fun b => ?_
            rw [hmeans, hfinish]
            exact nofun
      · refine .refuses (refuses_record_of_spoils hspoils) fun b => ?_
        rintro ⟨s, hform, -⟩
        exact h.not_isForm hsimple hx hhas hnone hform

end Lawful

/-! ### Records of one field -/

variable {key : String} {value : Decoder α} {Means : Node → α → Prop}

theorem lawful_singleton (hkey : Reading.of key.toList = .text)
    (hvalue : ∀ {n}, n.IsSimple → Decides value n (Means n)) :
    Lawful [⟨key, id, fun a _ => some a, value, Means⟩] (none : Option α) where
  text := List.forall_mem_singleton.mpr hkey
  distinct := List.nodup_singleton key
  get_empty := List.forall_mem_singleton.mpr rfl
  get_put := List.forall_mem_singleton.mpr fun _ _ => rfl
  get_put_ne := List.forall_mem_singleton.mpr
    (List.forall_mem_singleton.mpr fun hne => absurd rfl hne)
  ext _ _ hget := hget _ List.mem_cons_self
  decides := List.forall_mem_singleton.mpr hvalue

theorem decides_singleton {n : Node} (hkey : Reading.of key.toList = .text)
    (hvalue : ∀ {n}, n.IsSimple → Decides value n (Means n)) (hn : n.IsSimple) :
    Decides (record name [.named key id (fun a _ => some a) value] none (Mismatch.require key)) n
      (n.Gives key Means) := by
  refine ((lawful_singleton hkey hvalue).decides_record rfl hn).congr fun a => ?_
  simp only [IsForm, List.forall_mem_singleton, require_eq_ok_iff, id]
  constructor
  · exact fun hgives => ⟨some a, hgives, rfl⟩
  · rintro ⟨_, hsays, rfl⟩
    exact hsays

end Decoder

end RecordingIndex.Yaml
