import RecordingIndex.Proofs.Yaml.Event
import RecordingIndex.Yaml.Node

/-!
# Proofs — Yaml — the nodes of written events

Events that are parts of a collection without anchors put their nodes, in order, into the innermost
collection (`Builds`).  Tokens that are walked through in such events stand for the node they build
(`Reads`); one mapping is a whole document (`Reads.document`).
-/

namespace RecordingIndex.Yaml

open Yaml.Event

/-- The collection with nodes, one after the other. -/
def Content.addAll (c : Content) (ns : List Node) : Content := ns.foldl (fun c n => c.add n) c

namespace Builder

/-- The builder with nodes in the innermost collection, one after the other. -/
def placeAll (b : Builder) (ns : List Node) (events : Nat) : Builder :=
  { ns.foldl place b with size := b.size + events }

/-- Events that put nodes into the innermost collection. -/
def Builds (es : List Event) (ns : List Node) : Prop :=
  ∀ (b : Builder) (fault : Option Fault) (es' : List Event),
    b.run fault (es ++ es') = (b.placeAll ns es.length).run fault es'

variable {es es' : List Event} {ns ns' : List Node}

theorem place_size (b : Builder) (n : Node) (size : Nat) :
    place { b with size } n = { b.place n with size } := by
  obtain ⟨frames, root, names, definitions, size⟩ := b
  cases frames <;> rfl

theorem foldl_place_size (b : Builder) (size : Nat) :
    ns.foldl place { b with size } = { ns.foldl place b with size } := by
  induction ns generalizing b with
  | nil => rfl
  | cons n ns ih => rw [List.foldl_cons, place_size, ih, List.foldl_cons]

theorem placeAll_placeAll (b : Builder) (k k' : Nat) :
    (b.placeAll ns k).placeAll ns' k' = b.placeAll (ns ++ ns') (k + k') := by
  rw [placeAll, placeAll, placeAll, foldl_place_size, List.foldl_append, ← Nat.add_assoc]

namespace Builds

theorem nil : Builds [] [] := fun _ _ _ => rfl

theorem append (h : Builds es ns) (h' : Builds es' ns') : Builds (es ++ es') (ns ++ ns') := by
  intro b fault more
  rw [List.append_assoc, h, h', placeAll_placeAll, List.length_append]

theorem flatMap {α : Type} (events : α → List Event) (nodes : α → List Node) :
    ∀ xs : List α, (∀ x ∈ xs, Builds (events x) (nodes x)) →
      Builds (xs.flatMap events) (xs.flatMap nodes)
  | [],      _ => nil
  | x :: xs, h => by
      rw [List.flatMap_cons, List.flatMap_cons]
      exact (h x List.mem_cons_self).append
        (flatMap events nodes xs fun y hy => h y (List.mem_cons_of_mem x hy))

theorem scalar (cs : List Char) (spelling : Spelling) :
    Builds [.scalar ⟨none, none⟩ cs spelling] [.scalar none cs spelling] :=
  fun _ _ _ => rfl

/-! ### Collections -/

/-- A collection holds what was placed while it was the innermost. -/
theorem foldl_place_frame (frames : List Frame) (b : Builder) (c : Content) :
    ns.foldl place { b with frames := ⟨none, c⟩ :: frames } =
      { b with frames := ⟨none, c.addAll ns⟩ :: frames } := by
  induction ns generalizing c with
  | nil => rfl
  | cons n ns ih => exact ih (c.add n)

theorem addAll_sequence (items : List Node) :
    (Content.sequence items).addAll ns = .sequence (ns.reverse ++ items) := by
  induction ns generalizing items with
  | nil => rfl
  | cons n ns ih =>
      rw [List.reverse_cons, List.append_assoc, List.singleton_append, ← ih]
      rfl

theorem addAll_mapping (entries : List (Node × Node)) (es : List (Node × Node)) :
    (Content.mapping entries none).addAll (es.flatMap fun e => [e.1, e.2]) =
      .mapping (es.reverse ++ entries) none := by
  induction es generalizing entries with
  | nil => rfl
  | cons e es ih =>
      rw [List.reverse_cons, List.append_assoc, List.singleton_append, ← ih]
      rfl

/-- A collection without an anchor, from its start to its end. -/
theorem collection {first last : Event} (c : Content) (h : Builds es ns)
    (hfirst : ∀ b fault es', run b fault (first :: es') = (b.enter none c).run fault es')
    (hlast : ∀ b fault es', run b fault (last :: es') = b.leave.run fault es') :
    Builds (first :: (es ++ [last])) [(c.addAll ns).node] := by
  intro b fault more
  rw [List.cons_append, hfirst, List.append_assoc, h, List.singleton_append, hlast]
  -- While it is open, the collection is the innermost frame; then its node is placed below it.
  have henter : b.enter none c =
      { b with frames := ⟨none, c⟩ :: b.frames, size := b.size + 1 } := rfl
  have hplace : (b.enter none c).placeAll ns es.length =
      { b with frames := ⟨none, c.addAll ns⟩ :: b.frames, size := b.size + 1 + es.length } := by
    rw [placeAll, henter, foldl_place_frame b.frames { b with size := b.size + 1 }]
  have hsize : b.size + 1 + es.length + 1 = b.size + (first :: (es ++ [last])).length := by
    simp only [List.length_cons, List.length_append, List.length_nil]
    omega
  rw [hplace]
  show run { place { b with size := b.size + 1 + es.length } (c.addAll ns).node with
    size := b.size + 1 + es.length + 1 } fault more = _
  rw [place_size, hsize]
  rfl

theorem sequence (h : Builds es ns) :
    Builds (.sequenceStart ⟨none, none⟩ :: (es ++ [.sequenceEnd])) [.sequence ns] := by
  have hbuilds := collection (.sequence []) h (fun b fault es' => show run b fault
    (.sequenceStart ⟨none, none⟩ :: es') = _ from rfl) (fun b fault es' => show run b fault
    (.sequenceEnd :: es') = _ from rfl)
  rwa [addAll_sequence, Content.node, List.append_nil, List.reverse_reverse] at hbuilds

theorem mapping {entries : List (Node × Node)}
    (h : Builds es (entries.flatMap fun e => [e.1, e.2])) :
    Builds (.mappingStart ⟨none, none⟩ :: (es ++ [.mappingEnd])) [.mapping entries] := by
  have hbuilds := collection (.mapping [] none) h (fun b fault es' => show run b fault
    (.mappingStart ⟨none, none⟩ :: es') = _ from rfl) (fun b fault es' => show run b fault
    (.mappingEnd :: es') = _ from rfl)
  rwa [addAll_mapping, Content.node, List.append_nil, List.reverse_reverse] at hbuilds

end Builds

end Builder

/-! ### Tokens that stand for a node -/

/-- Where every item of a list has a companion, a function gives them. -/
theorem exists_companions {α β : Type} {xs : List α} {P : α → β → Prop} [Inhabited β]
    (h : ∀ x ∈ xs, ∃ y, P x y) : ∃ f : α → β, ∀ x ∈ xs, P x (f x) := by
  -- The list is searched for `x`, whose companion exists only if it is in the list.
  classical
  refine ⟨fun x => if hx : x ∈ xs then (h x hx).choose else default, ?_⟩
  intro x hx
  simp only [dif_pos hx]
  exact (h x hx).choose_spec

/-- Tokens that stand for a node, whatever the events in between. -/
def Spells (indentless : Bool) (ts : List Token) (n : Node) : Prop :=
  ∃ es, Walk.Node indentless ts es ∧ Builder.Builds es [n]

namespace Spells

variable {indentless : Bool} {ts : List Token} {n : Node}

theorem scalar (cs : List Char) (spelling : Spelling) :
    Spells indentless [.scalar cs spelling] (.scalar none cs spelling) :=
  ⟨_, .scalar cs spelling, .scalar cs spelling⟩

theorem emptyList : Spells indentless [.flowSequenceStart, .flowSequenceEnd] (.sequence []) :=
  ⟨_, .emptyList, Builder.Builds.sequence .nil⟩

/-- A list whose dashes stand at the column of its key. -/
theorem list {α : Type} {tokens : α → List Token} {node : α → Node} {xs : List α} (hxs : xs ≠ [])
    (h : ∀ x ∈ xs, Spells false (tokens x) (node x)) :
    Spells true (xs.flatMap fun x => .blockEntry :: tokens x) (.sequence (xs.map node)) := by
  obtain ⟨f, hf⟩ := exists_companions h
  have hwalk := Walk.Node.list (xs.map fun x => (tokens x, f x)) (by simpa using hxs)
    (by simpa using fun x hx => (hf x hx).1)
  have hbuilds := Builder.Builds.flatMap f (fun x => [node x]) xs fun x hx => (hf x hx).2
  rw [List.flatMap_map, List.flatMap_map] at hwalk
  refine ⟨_, hwalk, .sequence ?_⟩
  rwa [← List.map_eq_flatMap] at hbuilds

/-- A mapping with keys in columns. -/
theorem mapping {α : Type} {name : α → List Char} {tokens : α → List Token} {node : α → Node}
    {xs : List α} (h : ∀ x ∈ xs, Spells true (tokens x) (node x)) :
    Spells indentless
      (.blockMappingStart ::
        (xs.flatMap (fun x => Walk.Node.entryTokens (name x) (tokens x)) ++ [.blockEnd]))
      (.mapping (xs.map fun x => (.scalar none (name x) .plain, node x))) := by
  obtain ⟨f, hf⟩ := exists_companions h
  -- Every entry builds two nodes, its key and its value.
  have hwalk : Walk.Node indentless _ _ :=
    .mapping (xs.map fun x => (name x, tokens x, f x)) (by simpa using fun x hx => (hf x hx).1)
  have hbuilds := Builder.Builds.flatMap (fun x => Walk.Node.entryEvents (name x) (f x))
    (fun x => [.scalar none (name x) .plain, node x]) xs fun x hx =>
      (Builder.Builds.scalar (name x) .plain).append (hf x hx).2
  rw [List.flatMap_map, List.flatMap_map] at hwalk
  refine ⟨_, hwalk, .mapping ?_⟩
  rwa [List.flatMap_map]

/-- **A mapping** is a whole document. -/
theorem document {ts : List Token} {cs : List Char} (h : Spells false (.blockMappingStart :: ts) n)
    (hlex : Token.lex cs = (.blockMappingStart :: (ts ++ [.streamEnd]), none)) :
    ∃ size, Document.ofText cs = ⟨n, [], size, none, true⟩ := by
  obtain ⟨es, hwalk, hbuilds⟩ := h
  rw [Document.ofText, hlex]
  simp only [Event.ofTokens_mapping hwalk]
  refine ⟨es.length, ?_⟩
  rw [Builder.run, hbuilds]
  simp [Builder.run, Builder.placeAll, Builder.place, Builder.start]

end Spells

end RecordingIndex.Yaml
