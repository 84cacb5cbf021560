import RecordingIndex.Yaml.Event

/-!
# Proofs — Yaml — the events of written tokens

A walk meets goals in turn and counts them (`Walk`).  Tokens that stand for one node, before tokens
that do not belong to it, are walked through in at most four goals for each (`Walk.Node`); texts,
empty lists, lists of dashes and mappings are put together from their parts.
-/

namespace RecordingIndex.Yaml

open Yaml.Event

/-- Goals that are met in turn: the goals and tokens at the start, the events, the number of goals,
and the goals and tokens at the end. -/
inductive Walk : List Goal → List Token → List Event → Nat → List Goal → List Token → Prop where
  | nil (gs : List Goal) (ts : List Token) : Walk gs ts [] 0 gs ts
  | cons {g : Goal} {gs left gs' : List Goal} {ts ts₁ ts' : List Token} {es es' : List Event}
      {k : Nat} : g.meet standardHandles ts = .ok ⟨es, left, standardHandles, ts₁⟩ →
      Walk (left ++ gs) ts₁ es' k gs' ts' → Walk (g :: gs) ts (es ++ es') (k + 1) gs' ts'

namespace Walk

variable {gs gs₁ gs₂ : List Goal} {ts ts₁ ts₂ : List Token} {es es' : List Event} {k k' : Nat}

theorem append (h : Walk gs ts es k gs₁ ts₁) (h' : Walk gs₁ ts₁ es' k' gs₂ ts₂) :
    Walk gs ts (es ++ es') (k + k') gs₂ ts₂ := by
  induction h with
  | nil => simpa using h'
  | cons hmeet _ ih =>
      rw [List.append_assoc, Nat.add_right_comm]
      exact .cons hmeet (ih h')

/-- A walk of one goal. -/
theorem one {g : Goal} {left : List Goal}
    (h : g.meet standardHandles ts = .ok ⟨es, left, standardHandles, ts₁⟩) (gs : List Goal) :
    Walk (g :: gs) ts es 1 (left ++ gs) ts₁ := by
  simpa using Walk.cons h (.nil (left ++ gs) ts₁)

/-- The events of a walk come first, and its goals are taken off the fuel. -/
theorem ofGoals (h : Walk gs ts es k gs₁ ts₁) (fuel : Nat) :
    Event.ofGoals (fuel + k) standardHandles gs ts =
      (es ++ (Event.ofGoals fuel standardHandles gs₁ ts₁).1,
        (Event.ofGoals fuel standardHandles gs₁ ts₁).2) := by
  induction h with
  | nil => rfl
  | cons hmeet _ ih =>
      rw [← Nat.add_assoc, Event.ofGoals, hmeet]
      simp only [ih, List.append_assoc]

end Walk

/-- Whether a token can be the first of a node that is a value, or an item. -/
def startsNode (indentless : Bool) (t : Token) : Bool :=
  !Goal.endsMappingItem t && (indentless || t ≠ .blockEntry)

/-- Tokens that stand for a node with these events.  A value may be a list of dashes, which goes on
as long as dashes follow. -/
def Walk.Node (indentless : Bool) (ts : List Token) (es : List Event) : Prop :=
  (∃ t r, ts = t :: r ∧ startsNode indentless t = true) ∧
    ∃ k ≤ 4 * ts.length, ∀ gs rest, (indentless = true → ∃ t r, rest = t :: r ∧ t ≠ .blockEntry) →
      Walk (.node true indentless :: gs) (ts ++ rest) es k gs rest

namespace Walk.Node

variable {indentless : Bool} {ts : List Token} {es : List Event}

/-- A text. -/
theorem scalar (cs : List Char) (spelling : Spelling) :
    Walk.Node indentless [.scalar cs spelling] [.scalar ⟨none, none⟩ cs spelling] := by
  refine ⟨⟨_, [], rfl, by cases indentless <;> rfl⟩, 1, by simp, ?_⟩
  intro gs rest _
  have hstep : (Goal.node true indentless).meet standardHandles (.scalar cs spelling :: rest) =
      .ok ⟨[.scalar ⟨none, none⟩ cs spelling], [], standardHandles, rest⟩ := rfl
  exact .one hstep gs

/-- An empty list between brackets. -/
theorem emptyList :
    Walk.Node indentless [.flowSequenceStart, .flowSequenceEnd]
      [.sequenceStart ⟨none, none⟩, .sequenceEnd] := by
  refine ⟨⟨_, _, rfl, by cases indentless <;> rfl⟩, 2, by simp, ?_⟩
  intro gs rest _
  have hstart : (Goal.node true indentless).meet standardHandles
      (.flowSequenceStart :: .flowSequenceEnd :: rest) =
      .ok ⟨[.sequenceStart ⟨none, none⟩], [.flowItem true], standardHandles,
        .flowSequenceEnd :: rest⟩ := rfl
  have hend : (Goal.flowItem true).meet standardHandles (.flowSequenceEnd :: rest) =
      .ok ⟨[.sequenceEnd], [], standardHandles, rest⟩ := rfl
  exact (Walk.one hstart gs).append (.one hend gs)

/-! ### Lists of dashes -/

theorem meet_dash (h : Walk.Node false ts es) (more : List Token) :
    Goal.indentlessItem.meet standardHandles (.blockEntry :: (ts ++ more)) =
      .ok ⟨[], [.node true false, .indentlessItem], standardHandles, ts ++ more⟩ := by
  obtain ⟨⟨t, r, rfl, hstarts⟩, -⟩ := h
  simp only [startsNode, Bool.false_or, Bool.and_eq_true, Bool.not_eq_true', decide_eq_true_eq]
    at hstarts
  simp [Goal.meet, Goal.meetOptional, hstarts.1, hstarts.2]

/-- The items of a list, each with its tokens and its events. -/
theorem walk_items :
    ∀ items : List (List Token × List Event), (∀ x ∈ items, Walk.Node false x.1 x.2) →
      ∃ k, k + 3 * items.length ≤ 4 * (items.flatMap fun x => .blockEntry :: x.1).length ∧
        ∀ gs rest, Walk (.indentlessItem :: gs)
          (items.flatMap (fun x => .blockEntry :: x.1) ++ rest) (items.flatMap Prod.snd) k
          (.indentlessItem :: gs) rest
  | [],         _ => ⟨0, Nat.le_refl _, fun _ _ => .nil ..⟩
  | x :: items, h => by
      obtain ⟨-, k, hk, hnode⟩ := h x List.mem_cons_self
      obtain ⟨k', hk', hitems⟩ := walk_items items fun y hy => h y (List.mem_cons_of_mem x hy)
      -- One goal for the dash and `k` for the item; the dash is a token of its own, which pays for
      -- it.
      refine ⟨1 + k + k', ?_, fun gs rest => ?_⟩
      · simp only [List.flatMap_cons, List.length_append, List.length_cons] at hk' ⊢
        omega
      · have hdash := meet_dash (h x List.mem_cons_self)
          (items.flatMap (fun x => .blockEntry :: x.1) ++ rest)
        rw [List.flatMap_cons, List.flatMap_cons, List.append_assoc]
        exact ((Walk.one hdash gs).append (hnode _ _ (by simp))).append (hitems gs rest)

/-- A list whose dashes stand at the column of its key. -/
theorem list (items : List (List Token × List Event)) (hitems : items ≠ [])
    (h : ∀ x ∈ items, Walk.Node false x.1 x.2) :
    Walk.Node true (items.flatMap fun x => .blockEntry :: x.1)
      (.sequenceStart ⟨none, none⟩ :: (items.flatMap Prod.snd ++ [.sequenceEnd])) := by
  obtain ⟨x, items, rfl⟩ := List.exists_cons_of_ne_nil hitems
  obtain ⟨k, hk, hwalk⟩ := walk_items (x :: items) h
  rw [List.length_cons] at hk
  refine ⟨⟨.blockEntry, _, rfl, rfl⟩, 1 + k + 1, by omega, ?_⟩
  intro gs rest hrest
  have hstart : (Goal.node true true).meet standardHandles
      ((x :: items).flatMap (fun x => .blockEntry :: x.1) ++ rest) =
      .ok ⟨[.sequenceStart ⟨none, none⟩], [.indentlessItem], standardHandles,
        (x :: items).flatMap (fun x => .blockEntry :: x.1) ++ rest⟩ := rfl
  have hend : Goal.indentlessItem.meet standardHandles rest =
      .ok ⟨[.sequenceEnd], [], standardHandles, rest⟩ := by
    obtain ⟨t, r, rfl, ht⟩ := hrest rfl
    -- A list without indentation ends at whatever is no dash.
    cases t <;> first | rfl | exact absurd rfl ht
  exact ((Walk.one hstart gs).append (hwalk gs rest)).append (.one hend gs)

/-! ### Mappings -/

/-- The tokens of an entry. -/
def entryTokens (name : List Char) (ts : List Token) : List Token :=
  .key :: .scalar name .plain :: .value :: ts

/-- The events of an entry. -/
def entryEvents (name : List Char) (es : List Event) : List Event :=
  .scalar ⟨none, none⟩ name .plain :: es

theorem meet_value (h : Walk.Node true ts es) (more : List Token) :
    Goal.mappingValue.meet standardHandles (.value :: (ts ++ more)) =
      .ok ⟨[], [.node true true, .mappingKey], standardHandles, ts ++ more⟩ := by
  obtain ⟨⟨t, r, rfl, hstarts⟩, -⟩ := h
  simp only [startsNode, Bool.true_or, Bool.and_true, Bool.not_eq_true'] at hstarts
  simp [Goal.meet, Goal.meetOptional, hstarts]

/-- An entry of a mapping, before another entry or the end. -/
theorem walk_entry (name : List Char) (h : Walk.Node true ts es) :
    ∃ k ≤ 3 + 4 * ts.length, ∀ gs more, (∃ t r, more = t :: r ∧ t ≠ .blockEntry) →
      Walk (.mappingKey :: gs) (entryTokens name ts ++ more) (entryEvents name es) k
        (.mappingKey :: gs) more := by
  obtain ⟨-, k, hk, hnode⟩ := id h
  -- The key, its name and the colon take one goal each.
  refine ⟨1 + 1 + 1 + k, by omega, ?_⟩
  intro gs more hmore
  have hkey : Goal.mappingKey.meet standardHandles (entryTokens name ts ++ more) =
      .ok ⟨[], [.node true true, .mappingValue], standardHandles,
        .scalar name .plain :: .value :: (ts ++ more)⟩ := rfl
  have hname : (Goal.node true true).meet standardHandles
      (.scalar name .plain :: .value :: (ts ++ more)) =
      .ok ⟨[.scalar ⟨none, none⟩ name .plain], [], standardHandles, .value :: (ts ++ more)⟩ := rfl
  exact (((Walk.one hkey gs).append (.one hname _)).append (.one (meet_value h more) gs)).append
    (hnode _ more fun _ => hmore)

/-- The entries of a mapping, and its end. -/
theorem walk_entries :
    ∀ entries : List (List Char × List Token × List Event),
      (∀ e ∈ entries, Walk.Node true e.2.1 e.2.2) →
      ∃ k ≤ 1 + 4 * (entries.flatMap fun e => entryTokens e.1 e.2.1).length, ∀ gs rest,
        Walk (.mappingKey :: gs)
          (entries.flatMap (fun e => entryTokens e.1 e.2.1) ++ .blockEnd :: rest)
          (entries.flatMap (fun e => entryEvents e.1 e.2.2) ++ [.mappingEnd]) k gs rest
  | [],           _ => by
      refine ⟨1, Nat.le_refl _, ?_⟩
      intro gs rest
      have hend : Goal.mappingKey.meet standardHandles (.blockEnd :: rest) =
          .ok ⟨[.mappingEnd], [], standardHandles, rest⟩ := rfl
      exact .one hend gs
  | e :: entries, h => by
      obtain ⟨k', hk', hentries⟩ := walk_entries entries fun y hy => h y (List.mem_cons_of_mem e hy)
      obtain ⟨k, hk, hentry⟩ := walk_entry e.1 (h e List.mem_cons_self)
      refine ⟨k + k', ?_, fun gs rest => ?_⟩
      · simp only [List.flatMap_cons, List.length_append, entryTokens, List.length_cons] at hk' ⊢
        omega
      · have hmore : ∃ t r, entries.flatMap (fun e => entryTokens e.1 e.2.1) ++ .blockEnd :: rest =
            t :: r ∧ t ≠ .blockEntry := by
          cases entries <;> exact ⟨_, _, rfl, by simp⟩
        rw [List.flatMap_cons, List.flatMap_cons, List.append_assoc, List.append_assoc]
        exact (hentry gs _ hmore).append (hentries gs rest)

/-- A mapping with keys in columns. -/
theorem mapping (entries : List (List Char × List Token × List Event))
    (h : ∀ e ∈ entries, Walk.Node true e.2.1 e.2.2) :
    Walk.Node indentless
      (.blockMappingStart :: (entries.flatMap (fun e => entryTokens e.1 e.2.1) ++ [.blockEnd]))
      (.mappingStart ⟨none, none⟩ ::
        (entries.flatMap (fun e => entryEvents e.1 e.2.2) ++ [.mappingEnd])) := by
  obtain ⟨k, hk, hwalk⟩ := walk_entries entries h
  refine ⟨⟨.blockMappingStart, _, rfl, by cases indentless <;> rfl⟩, 1 + k, ?_, fun gs rest _ => ?_⟩
  · simp only [List.length_cons, List.length_append]
    omega
  · have hstart : (Goal.node true indentless).meet standardHandles (.blockMappingStart ::
        (entries.flatMap (fun e => entryTokens e.1 e.2.1) ++ .blockEnd :: rest)) =
        .ok ⟨[.mappingStart ⟨none, none⟩], [.mappingKey], standardHandles,
          entries.flatMap (fun e => entryTokens e.1 e.2.1) ++ .blockEnd :: rest⟩ := rfl
    rw [List.cons_append, List.append_assoc]
    exact (Walk.one hstart gs).append (hwalk gs rest)

end Walk.Node

/-! ### Documents -/

/-- **The events of a stream** that is one mapping. -/
theorem Event.ofTokens_mapping {ts : List Token} {es : List Event}
    (h : Walk.Node false (.blockMappingStart :: ts) es) :
    ofTokens (.blockMappingStart :: (ts ++ [.streamEnd])) none =
      (.documentStart :: (es ++ [.documentEnd, .streamEnd]), none) := by
  obtain ⟨-, k, hk, hnode⟩ := h
  have hfirst : (Goal.document true).meet standardHandles
      (.blockMappingStart :: ts ++ [.streamEnd]) =
      .ok ⟨[.documentStart], [.node true false, .documentEnd], standardHandles,
        .blockMappingStart :: ts ++ [.streamEnd]⟩ := rfl
  have hend : Goal.documentEnd.meet standardHandles [.streamEnd] =
      .ok ⟨[.documentEnd], [.document false], standardHandles, [.streamEnd]⟩ := rfl
  have hlast : (Goal.document false).meet standardHandles [.streamEnd] =
      .ok ⟨[.streamEnd], [], standardHandles, []⟩ := rfl
  have hwalk : Walk [.document true] (.blockMappingStart :: ts ++ [.streamEnd])
      ([.documentStart] ++ es ++ [.documentEnd] ++ [.streamEnd]) (1 + k + 1 + 1) [] [] :=
    (((Walk.one hfirst []).append (hnode _ _ (by simp))).append (.one hend [])).append
      (.one hlast [])
  -- Four goals a token and the two of the document are within the fuel.
  obtain ⟨fuel, hfuel⟩ : ∃ fuel, maxGoals (.blockMappingStart :: ts ++ [Token.streamEnd]).length =
      fuel + (1 + k + 1 + 1) := by
    refine ⟨maxGoals (.blockMappingStart :: ts ++ [Token.streamEnd]).length - (1 + k + 1 + 1), ?_⟩
    rw [maxGoals, List.length_append, List.length_singleton]
    omega
  have hnone : Event.ofGoals fuel standardHandles [] [] = ([], none) := by cases fuel <;> rfl
  rw [ofTokens, ← List.cons_append, hfuel, hwalk.ofGoals, hnone]
  simp

end RecordingIndex.Yaml
