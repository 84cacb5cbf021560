import RecordingIndex.Proofs.Yaml.Decoder
import RecordingIndex.Proofs.Yaml.Tree

/-!
# Proofs — Yaml — decoders decide what nodes mean

What a node means is a relation between nodes and values: a scalar means its text, a plain scalar
that writes a number means the number, a sequence means the list of what its items mean.  A decoder
*decides* a meaning on a node if it takes the node for its one value, or refuses a node without one
(`Decides`); it does so in every document, at every place, and without following a reference.

The numbers of 64 bits are the plain scalars that stand for a natural number (`isWord64_iff`).
Texts, numbers and lists are decided on every simple tree (`decides_text`, `decides_word32`,
`decides_word64`, `decides_list`).
-/

namespace RecordingIndex.Yaml

variable {α β : Type}

/-! ### Meanings -/

/-- The node is a scalar with the characters of a text. -/
def IsText (n : Node) (s : String) : Prop :=
  ∃ cs spelling, n = .scalar none cs spelling ∧ String.ofList cs = s

/-- The node is a plain scalar that writes a number. -/
def IsNumber (n : Node) (k : Nat) : Prop := ∃ cs, n = .scalar none cs .plain ∧ Reading.Writes cs k

/-- The node is a number of 32 bits. -/
def IsWord32 (n : Node) (w : UInt32) : Prop := IsNumber n w.toNat

/-- The node is a number of 64 bits. -/
def IsWord64 (n : Node) (w : UInt64) : Prop := IsNumber n w.toNat

/-- A number of 64 bits is what stands for a natural number, and nothing else. -/
theorem isWord64_iff {n : Node} {w : UInt64} :
    IsWord64 n w ↔ ∃ cs, n = .scalar none cs .plain ∧ Reading.of cs = .natural w := by
  simp only [IsWord64, IsNumber, Reading.of_eq_natural_iff]

/-- The node is a sequence of the values, or not there and the list is empty. -/
def IsList (Means : Node → α → Prop) (n : Node) (as : List α) : Prop :=
  (∃ ns, n = .sequence ns ∧ List.Forall₂ Means ns as) ∨ n = .absent ∧ as = []

variable {Means : Node → α → Prop} {cs : List Char} {spelling : Spelling} {ns : List Node}
  {as : List α}

theorem isText_scalar_iff {s : String} :
    IsText (.scalar none cs spelling) s ↔ String.ofList cs = s := by
  simp [IsText]

theorem isList_sequence_iff : IsList Means (.sequence ns) as ↔ List.Forall₂ Means ns as := by
  simp [IsList, Node.absent]

theorem isList_scalar_iff :
    IsList Means (.scalar none cs spelling) as ↔ (cs = [] ∧ spelling = .plain) ∧ as = [] := by
  simp [IsList, Node.absent]

theorem not_isList_mapping (es : List (Node × Node)) : ¬ IsList Means (.mapping es) as := by
  simp [IsList, Node.absent]

theorem IsNumber.unique {n : Node} {k k' : Nat} (h : IsNumber n k) (h' : IsNumber n k') :
    k = k' := by
  obtain ⟨cs, rfl, h⟩ := h
  obtain ⟨cs', heq, h'⟩ := h'
  cases heq
  exact h.unique h'

namespace Decoder

/-! ### Decisions -/

/-- A decoder complains about a node, wherever the node stands. -/
def Refuses (decoder : Decoder α) (n : Node) : Prop :=
  ∀ d place fuel, ∃ c, (decoder d place n).run fuel = .error c

theorem Refuses.map {decoder : Decoder α} {n : Node} (h : Refuses decoder n) (f : α → β) :
    Refuses (fun d place n => f <$> decoder d place n) n := by
  intro d place fuel
  obtain ⟨c, hc⟩ := h d place fuel
  exact ⟨c, by rw [StateT.run_map, hc]; rfl⟩

/-- A decoder takes a node for the one value that it means, or refuses a node that means none. -/
inductive Decides (decoder : Decoder α) (n : Node) (Means : α → Prop) : Prop
  | takes (a : α) (htakes : Takes decoder n a) (hmeans : ∀ b, Means b ↔ b = a)
  | refuses (hrefuses : Refuses decoder n) (hnone : ∀ b, ¬ Means b)

variable {decoder : Decoder α} {n : Node} {Means Means' : α → Prop}

namespace Decides

theorem congr (h : Decides decoder n Means) (hiff : ∀ a, Means' a ↔ Means a) :
    Decides decoder n Means' := by
  cases h with
  | takes a htakes hmeans => exact .takes a htakes fun b => (hiff b).trans (hmeans b)
  | refuses hrefuses hnone => exact .refuses hrefuses fun b hb => hnone b ((hiff b).mp hb)

theorem unique (h : Decides decoder n Means) {a b : α} (ha : Means a) (hb : Means b) : a = b := by
  cases h with
  | takes c _ hmeans => rw [(hmeans a).mp ha, (hmeans b).mp hb]
  | refuses _ hnone => exact absurd ha (hnone a)

/-- A decision under a function that tells the values apart. -/
theorem map (h : Decides decoder n Means) {f : α → β} {g : β → α} (hgf : ∀ a, Means a → g (f a) = a)
    (hfg : ∀ b, f (g b) = b) :
    Decides (fun d place n => f <$> decoder d place n) n fun b => Means (g b) := by
  cases h with
  | takes a htakes hmeans =>
      refine .takes (f a) (htakes.map f) fun b => ?_
      rw [hmeans]
      constructor
      · rintro rfl
        exact (hfg b).symm
      · rintro rfl
        exact hgf a ((hmeans a).mpr rfl)
  | refuses hrefuses hnone => exact .refuses (hrefuses.map f) fun b => hnone (g b)

end Decides

/-! ### Simple values -/

/-- **Every scalar is a text**, and nothing else is. -/
theorem decides_text (h : n.IsSimple) : Decides text n (IsText n) := by
  cases h with
  | scalar cs spelling =>
      exact .takes (String.ofList cs) (takes_text none cs spelling) fun s =>
        isText_scalar_iff.trans eq_comm
  | sequence _ => exact .refuses (fun _ _ _ => ⟨_, rfl⟩) fun s ⟨_, _, heq, _⟩ => nomatch heq
  | mapping _ _ _ => exact .refuses (fun _ _ _ => ⟨_, rfl⟩) fun s ⟨_, _, heq, _⟩ => nomatch heq

theorem refuses_natural {bound : Nat} (name : String) (h : n.IsSimple)
    (hno : ∀ k, IsNumber n k → ¬ k < bound) : Refuses (natural bound name) n := by
  intro d place fuel
  cases h with
  | sequence _ => exact ⟨_, rfl⟩
  | mapping _ _ _ => exact ⟨_, rfl⟩
  | scalar cs spelling =>
      simp only [natural, Document.follow, pure_bind]
      split
      · next k hk =>
          -- What is read is a number, so it is not below the bound.
          rw [Option.ite_none_right_eq_some] at hk
          obtain ⟨hplain, hread⟩ := hk
          have hspelling : spelling = .plain := by simpa [isNumeral] using hplain
          have hwrites := (Reading.natural?_eq_some_iff.mp hread).1
          rw [if_neg (hno k ⟨cs, by rw [hspelling], hwrites⟩)]
          exact ⟨_, rfl⟩
      · exact ⟨_, rfl⟩

/-- **A plain scalar is a number** if it writes one below the bound, and nothing else is. -/
theorem decides_natural {bound : Nat} (name : String) (hb : bound ≤ UInt64.size)
    (h : n.IsSimple) : Decides (natural bound name) n fun k => IsNumber n k ∧ k < bound := by
  by_cases hsome : ∃ k, IsNumber n k ∧ k < bound
  · obtain ⟨k, hk, hlt⟩ := hsome
    refine .takes k ?_ fun k' => ⟨fun h' => h'.1.unique hk, fun heq => heq ▸ ⟨hk, hlt⟩⟩
    obtain ⟨cs, rfl, hwrites⟩ := hk
    exact takes_natural name hwrites hlt hb
  · rw [not_exists] at hsome
    exact .refuses (refuses_natural name h fun k hk hlt => hsome k ⟨hk, hlt⟩) hsome

theorem decides_word32 (h : n.IsSimple) : Decides word32 n (IsWord32 n) := by
  have hmap := (decides_natural "u32" (by decide) h).map (f := UInt32.ofNat) (g := UInt32.toNat)
    (fun k hk => UInt32.toNat_ofNat_of_lt hk.2) fun w => UInt32.ofNat_toNat
  exact hmap.congr fun w => (and_iff_left w.toNat_lt).symm

theorem decides_word64 (h : n.IsSimple) : Decides word64 n (IsWord64 n) := by
  have hmap := (decides_natural "u64" (Nat.le_refl _) h).map (f := UInt64.ofNat) (g := UInt64.toNat)
    (fun k hk => UInt64.toNat_ofNat_of_lt hk.2) fun w => UInt64.ofNat_toNat
  exact hmap.congr fun w => (and_iff_left w.toNat_lt).symm

/-! ### Lists -/

variable {item : Decoder α} {Means : Node → α → Prop}

/-- Items are decided one after the other, up to the first that means nothing. -/
theorem decides_items : ∀ {ns : List Node}, (∀ n ∈ ns, Decides item n (Means n)) →
    (∃ as, List.Forall₂ (Takes item) ns as ∧ ∀ bs, List.Forall₂ Means ns bs ↔ bs = as) ∨
      (∀ d place fuel i, ∃ c, (items item d place i ns).run fuel = .error c) ∧
        ∀ bs, ¬ List.Forall₂ Means ns bs
  | [],      _ => .inl ⟨[], .nil, fun bs => List.forall₂_nil_left_iff⟩
  | n :: ns, h => by
      obtain ⟨hhead, htail⟩ := List.forall_mem_cons.mp h
      cases hhead with
      | refuses hrefuses hnone =>
          refine .inr ⟨fun d place fuel i => ?_, fun bs hbs => ?_⟩
          · obtain ⟨c, hc⟩ := hrefuses d (place ++ [.index i]) fuel
            exact ⟨c, by rw [items, run_bind_of_error hc]⟩
          · obtain ⟨b, _, hb, -, -⟩ := List.forall₂_cons_left_iff.mp hbs
            exact hnone b hb
      | takes a htakes hmeans =>
          rcases decides_items htail with ⟨as, hall, hiff⟩ | ⟨hrefuses, hnone⟩
          · refine .inl ⟨a :: as, .cons htakes hall, fun bs => ?_⟩
            rw [List.forall₂_cons_left_iff]
            constructor
            · rintro ⟨b, bs, hb, hbs, rfl⟩
              rw [(hmeans b).mp hb, (hiff bs).mp hbs]
            · rintro rfl
              exact ⟨a, as, (hmeans a).mpr rfl, (hiff as).mpr rfl, rfl⟩
          · refine .inr ⟨fun d place fuel i => ?_, fun bs hbs => ?_⟩
            · have hn := htakes d (place ++ [.index i]) fuel
              obtain ⟨c, hc⟩ := hrefuses d place fuel (i + 1)
              exact ⟨c, by rw [items, run_bind_of_ok hn, run_bind_of_error hc]⟩
            · obtain ⟨_, bs, -, hbs, -⟩ := List.forall₂_cons_left_iff.mp hbs
              exact hnone bs hbs

/-- **A sequence is a list** of what its items mean, and a value that is not there is empty. -/
theorem decides_list (hitem : ∀ {n}, n.IsSimple → Decides item n (Means n)) (h : n.IsSimple) :
    Decides (list item) n (IsList Means n) := by
  cases h with
  | mapping _ _ _ => exact .refuses (fun _ _ _ => ⟨_, rfl⟩) fun as => not_isList_mapping _
  | sequence hitems =>
      rcases decides_items fun n hn => hitem (hitems n hn) with ⟨as, hall, hiff⟩ | ⟨hrefuses, hnone⟩
      · exact .takes as (takes_list hall) fun bs => isList_sequence_iff.trans (hiff bs)
      · exact .refuses (fun d place fuel => hrefuses d place fuel 0) fun bs hbs =>
          hnone bs (isList_sequence_iff.mp hbs)
  | scalar cs spelling =>
      by_cases habsent : cs = [] ∧ spelling = .plain
      · refine .takes [] ?_ fun bs => isList_scalar_iff.trans (and_iff_right habsent)
        obtain ⟨rfl, rfl⟩ := habsent
        exact fun _ _ _ => rfl
      · refine .refuses (fun d place fuel => ?_) fun bs hbs =>
          habsent (isList_scalar_iff.mp hbs).1
        rcases cs with _ | ⟨c, cs⟩
        · cases spelling with
          | plain => exact absurd ⟨rfl, rfl⟩ habsent
          | literal => exact ⟨_, rfl⟩
          | quoted => exact ⟨_, rfl⟩
        · exact ⟨_, rfl⟩

/-! ### Documents -/

/-- **A document** without a fault that is the last of its stream is decoded to what its tree means,
and is refused if it means nothing. -/
theorem Decides.decode {d : Document} {Means : α → Prop} (h : Decides decoder d.root Means)
    (hfault : d.fault = none) (hlast : d.isLast = true) :
    (∀ a, d.decode decoder = .ok a ↔ Means a) ∧
      ((∀ a, ¬ Means a) → ∃ c, d.decode decoder = .error c) := by
  cases h with
  | takes a htakes hmeans =>
      have hdecode : d.decode decoder = .ok a := by
        simp [Document.decode, htakes d [] (referencesPerEvent * d.size), hfault, hlast]
      refine ⟨fun b => ?_, fun hnone => absurd ((hmeans a).mpr rfl) (hnone a)⟩
      rw [hdecode, hmeans, Except.ok.injEq, eq_comm]
  | refuses hrefuses hnone =>
      obtain ⟨c, hc⟩ := hrefuses d [] (referencesPerEvent * d.size)
      have hdecode : d.decode decoder = .error c := by
        simp [Document.decode, hc]
      refine ⟨fun b => ?_, fun _ => ⟨c, hdecode⟩⟩
      rw [hdecode]
      exact ⟨nofun, fun hb => absurd hb (hnone b)⟩

end Decoder

end RecordingIndex.Yaml
