import Mathlib.Data.List.Forall2
import RecordingIndex.Proofs.Yaml.Numeral
import RecordingIndex.Yaml.Decoder

/-!
# Proofs — Yaml — decoding written nodes

A decoder takes a node for a value when it reads it so in every document and at every place, and
follows no reference (`Takes`).  Texts are taken for themselves, what writes a number for the number
(`takes_natural`), lists for the values of their items, and records for what their entries fill in
(`Fills`).
-/

namespace RecordingIndex.Yaml

namespace Decoder

/-! ### Steps of a decoding -/

theorem run_bind_of_ok {α β : Type} {x : Decoding α} {f : α → Decoding β} {a : α}
    {fuel fuel' : Nat} (h : x.run fuel = .ok (a, fuel')) :
    (x >>= f).run fuel = (f a).run fuel' := by
  rw [StateT.run_bind, h]
  rfl

theorem run_bind_of_error {α β : Type} {x : Decoding α} {f : α → Decoding β} {c : Complaint}
    {fuel : Nat} (h : x.run fuel = .error c) : (x >>= f).run fuel = .error c := by
  rw [StateT.run_bind, h]
  rfl

/-! ### Simple values -/

variable {α β σ : Type} {decoder : Decoder α} {n : Node} {a : α} {cs : List Char} {bound k : Nat}

/-- A decoder reads a node as a value, wherever the node stands. -/
def Takes (decoder : Decoder α) (n : Node) (a : α) : Prop :=
  ∀ d place fuel, (decoder d place n).run fuel = .ok (a, fuel)

theorem Takes.map (h : Takes decoder n a) (f : α → β) :
    Takes (fun d place n => f <$> decoder d place n) n (f a) := by
  intro d place fuel
  rw [StateT.run_map, h]
  rfl

theorem takes_text (tag : Option (List Char)) (cs : List Char) (spelling : Spelling) :
    Takes text (.scalar tag cs spelling) (String.ofList cs) :=
  fun _ _ _ => rfl

/-- **What writes a number** is taken for the number, if it is within the bound. -/
theorem takes_natural (name : String) (hwrites : Reading.Writes cs k) (h : k < bound)
    (hb : bound ≤ UInt64.size) : Takes (natural bound name) (.scalar none cs .plain) k := by
  intro d place fuel
  have hread : Reading.natural? UInt64.size cs = some k :=
    Reading.natural?_eq_some_iff.mpr ⟨hwrites, Nat.lt_of_lt_of_le h hb⟩
  simp [natural, Document.follow, isNumeral, hread, h]
  rfl

theorem takes_word32 {w : UInt32} (hwrites : Reading.Writes cs w.toNat) :
    Takes word32 (.scalar none cs .plain) w := by
  have h := (takes_natural "u32" hwrites w.toNat_lt (by decide)).map UInt32.ofNat
  rwa [UInt32.ofNat_toNat] at h

theorem takes_word64 {w : UInt64} (hwrites : Reading.Writes cs w.toNat) :
    Takes word64 (.scalar none cs .plain) w := by
  have h := (takes_natural "u64" hwrites w.toNat_lt (Nat.le_refl _)).map UInt64.ofNat
  rwa [UInt64.ofNat_toNat] at h

/-! ### Lists -/

theorem run_items (d : Document) (place : Place) (fuel : Nat) :
    ∀ {ns : List Node} {as : List α} (i : Nat), List.Forall₂ (Takes decoder) ns as →
      (items decoder d place i ns).run fuel = .ok (as, fuel)
  | _, _, _, .nil => rfl
  | n :: ns, a :: as, i, .cons hn hns => by
      have hn := hn d (place ++ [.index i]) fuel
      have hns := run_items d place fuel (i + 1) hns
      rw [items, run_bind_of_ok hn, run_bind_of_ok hns]
      rfl

theorem takes_list {ns : List Node} {as : List α} (h : List.Forall₂ (Takes decoder) ns as) :
    Takes (list decoder) (.sequence ns) as :=
  fun d place fuel => run_items d place fuel 0 h

/-! ### Records -/

variable {fields : List (Field σ)} {s s₁ s' : σ} {e : Node × Node} {es : List (Node × Node)}
  {key name : String} {spelling : Spelling}

/-- One entry takes a record in the making to another. -/
def Steps (fields : List (Field σ)) (s : σ) (e : Node × Node) (s' : σ) : Prop :=
  ∀ d place fuel, (entry fields d place s e).run fuel = .ok (s', fuel)

/-- Entries fill a record in the making. -/
def Fills (fields : List (Field σ)) (s : σ) (es : List (Node × Node)) (s' : σ) : Prop :=
  ∀ d place fuel, (es.foldlM (entry fields d place) s).run fuel = .ok (s', fuel)

/-- A field whose place is empty is not there yet. -/
theorem isFilled_named {get : σ → Option α} {put : α → σ → σ} (hfree : get s = none) :
    (Field.named name get put decoder).isFilled s = false := by
  show (get s).isSome = false
  rw [hfree]
  rfl

namespace Steps

/-- An entry of an unknown key, whatever its value. -/
theorem unknown (hfind : fields.find? (·.name = key) = none) (hwhole : n.isWhole = true) :
    Steps fields s (.scalar none key.toList spelling, n) s := by
  intro d place fuel
  simp only [entry, Document.follow, pure_bind, String.ofList_toList, hfind, if_pos hwhole]
  rfl

/-- An entry of a known key that is not there yet. -/
theorem known {f : Field σ} {fill : σ → σ} (hfind : fields.find? (·.name = key) = some f)
    (hfree : f.isFilled s = false) (hread : Takes f.read n fill) :
    Steps fields s (.scalar none key.toList spelling, n) (fill s) := by
  intro d place fuel
  have hfill := hread d (place ++ [.key key.toList]) fuel
  simp only [entry, Document.follow, pure_bind, String.ofList_toList, hfind, hfree]
  rw [if_neg Bool.false_ne_true, run_bind_of_ok hfill]
  rfl

/-- An entry of a field that is a part of the record in the making. -/
theorem named {get : σ → Option α} {put : α → σ → σ}
    (hfind : fields.find? (·.name = key) = some (.named name get put decoder))
    (hfree : get s = none) (hread : Takes decoder n a) :
    Steps fields s (.scalar none key.toList spelling, n) (put a s) :=
  known hfind (isFilled_named hfree) (hread.map put)

end Steps

namespace Fills

theorem nil : Fills fields s [] s := fun _ _ _ => rfl

theorem cons (hstep : Steps fields s e s₁) (h : Fills fields s₁ es s') :
    Fills fields s (e :: es) s' := by
  intro d place fuel
  rw [List.foldlM_cons, run_bind_of_ok (hstep d place fuel)]
  exact h d place fuel

theorem named {get : σ → Option α} {put : α → σ → σ}
    (hfind : fields.find? (·.name = key) = some (.named name get put decoder))
    (hfree : get s = none) (hread : Takes decoder n a) (h : Fills fields (put a s) es s') :
    Fills fields s ((.scalar none key.toList .plain, n) :: es) s' :=
  .cons (.named hfind hfree hread) h

end Fills

theorem takes_record {finish : σ → Except Mismatch α}
    (h : Fills fields s es s') (hfinish : finish s' = .ok a) :
    Takes (record name fields s finish) (.mapping es) a := by
  intro d place fuel
  have hfill := h d place fuel
  simp only [record, Document.follow, pure_bind]
  rw [run_bind_of_ok hfill, hfinish]
  rfl

end Decoder

end RecordingIndex.Yaml
