import Mathlib.Data.List.Induction
import RecordingIndex.Database.Segment
import RecordingIndex.Proofs.List

/-!
# Proofs — the registry of backends

A registry is *ordered* if the identifiers of its backends ascend; it stays so when a backend is
registered (`IsOrdered.insert`), and what an identifier stands for changes only if the backend is
one of that identifier (`backend?_insert`).  So after any number of registrations each identifier
stands for the backend that was registered last under it (`Holds.registerAll`).  An ordered registry
is what its identifiers stand for (`IsOrdered.eq_of_backend?`), hence registrations of different
identifiers may change places.  `registers_registerAll` puts this together.
-/

namespace RecordingIndex.Registry

variable {g h : Registry} {b c : Backend} {bs cs : List Backend} {id : String}

/-! ### What an identifier stands for -/

theorem backend_eq_ok_iff : g.backend id = .ok b ↔ g.backend? id = some b := by
  rw [backend]
  cases g.backend? id <;> simp

theorem backend_eq_error_iff {e : Failure} :
    g.backend id = .error e ↔ e = .backendUnavailable id ∧ g.backend? id = none := by
  rw [backend]
  cases g.backend? id <;> simp [eq_comm]

theorem mem_storageIds_iff : id ∈ g.storageIds ↔ ∃ b, g.backend? id = some b := by
  rw [storageIds, List.mem_map, ← Option.isSome_iff_exists, backend?, List.find?_isSome]
  simp

theorem segmentExtension_of_backend? (hb : g.backend? id = some b) :
    g.segmentExtension id = b.extension := by
  rw [segmentExtension, hb]
  rfl

theorem segmentExtension_of_none (hnone : g.backend? id = none) :
    g.segmentExtension id = fallbackExtension := by
  rw [segmentExtension, hnone]
  rfl

/-! ### One registration -/

theorem find?_insertBackend : ∀ bs : List Backend,
    (insertBackend b bs).find? (·.storageId = id) =
      if b.storageId = id then some b else bs.find? (·.storageId = id)
  | []      => by
      rw [insertBackend, List.find?_singleton]
      simp
  | c :: cs => by
      rw [insertBackend]
      split
      · next hbc =>
          -- `c` gives way, and it has the identifier of `b`.
          by_cases hb : b.storageId = id <;> simp [hb, ← hbc]
      split
      · by_cases hb : b.storageId = id <;> simp [hb]
      · next hbc _ =>
          by_cases hc : c.storageId = id
          · have hb : b.storageId ≠ id := fun hb => hbc (hb.trans hc.symm)
            simp [hc, hb]
          · simp [hc, find?_insertBackend cs]

/-- **What is registered** stands for its identifier, and all else stands for what it did. -/
theorem backend?_insert :
    (g.insert b).backend? id = if b.storageId = id then some b else g.backend? id :=
  find?_insertBackend g.backends

theorem backend_insert_of_ne (hb : b.storageId ≠ id) : (g.insert b).backend id = g.backend id := by
  rw [backend, backend, backend?_insert, if_neg hb]

theorem segmentExtension_insert_of_ne (hb : b.storageId ≠ id) :
    (g.insert b).segmentExtension id = g.segmentExtension id := by
  rw [segmentExtension, segmentExtension, backend?_insert, if_neg hb]

/-! ### Order -/

/-- The identifiers ascend. -/
def IsOrdered (g : Registry) : Prop := g.storageIds.Pairwise (· < ·)

theorem mem_insertBackend : ∀ {bs : List Backend}, c ∈ insertBackend b bs → c = b ∨ c ∈ bs
  | [],      hc => .inl (List.mem_singleton.mp hc)
  | d :: ds, hc => by
      rw [insertBackend] at hc
      split at hc
      · exact (List.mem_cons.mp hc).imp_right (List.mem_cons_of_mem d)
      split at hc
      · exact List.mem_cons.mp hc
      · rcases List.mem_cons.mp hc with rfl | hc
        · exact .inr List.mem_cons_self
        · exact (mem_insertBackend hc).imp_right (List.mem_cons_of_mem d)

theorem pairwise_insertBackend : ∀ {bs : List Backend},
    bs.Pairwise (fun x y => x.storageId < y.storageId) →
      (insertBackend b bs).Pairwise fun x y => x.storageId < y.storageId
  | [],      _  => List.pairwise_singleton _ b
  | d :: ds, hp => by
      obtain ⟨hd, hds⟩ := List.pairwise_cons.mp hp
      rw [insertBackend]
      split
      · next hbd => exact List.pairwise_cons.mpr ⟨fun x hx => hbd ▸ hd x hx, hds⟩
      split
      · next hlt =>
          refine List.pairwise_cons.mpr ⟨fun x hx => ?_, hp⟩
          rcases List.mem_cons.mp hx with rfl | hx
          · exact hlt
          · exact String.lt_trans hlt (hd x hx)
      · next hne hnlt =>
          have hlt : d.storageId < b.storageId :=
            (Std.lt_trichotomy d.storageId b.storageId).resolve_right fun h =>
              h.elim (fun heq => hne heq.symm) hnlt
          refine List.pairwise_cons.mpr ⟨fun x hx => ?_, pairwise_insertBackend hds⟩
          rcases mem_insertBackend hx with rfl | hx
          · exact hlt
          · exact hd x hx

theorem isOrdered_iff : g.IsOrdered ↔ g.backends.Pairwise fun x y => x.storageId < y.storageId :=
  List.pairwise_map

theorem isOrdered_empty : IsOrdered .empty := .nil

/-- **Registering** a backend keeps the order. -/
theorem IsOrdered.insert (hg : g.IsOrdered) (b : Backend) : (g.insert b).IsOrdered :=
  isOrdered_iff.mpr (pairwise_insertBackend (isOrdered_iff.mp hg))

theorem IsOrdered.nodup (hg : g.IsOrdered) : g.storageIds.Nodup :=
  List.Pairwise.imp String.ne_of_lt hg

theorem IsOrdered.mem_backends_iff (hg : g.IsOrdered) :
    b ∈ g.backends ↔ g.backend? b.storageId = some b := by
  rw [backend?, find?_eq_some_iff_of_nodup hg.nodup, and_iff_left rfl]

/-- **An ordered registry** is what its identifiers stand for. -/
theorem IsOrdered.eq_of_backend? (hg : g.IsOrdered) (hh : h.IsOrdered)
    (heq : ∀ id, g.backend? id = h.backend? id) : g = h := by
  have hperm : g.backends.Perm h.backends := by
    refine (List.perm_ext_iff_of_nodup hg.nodup.of_map hh.nodup.of_map).mpr fun b => ?_
    rw [hg.mem_backends_iff, hh.mem_backends_iff, heq]
  have hlist : g.backends = h.backends :=
    hperm.eq_of_pairwise (fun x y _ _ hxy hyx => absurd hyx (String.lt_asymm hxy))
      (isOrdered_iff.mp hg) (isOrdered_iff.mp hh)
  cases g
  cases h
  exact congrArg Registry.mk hlist

/-- Backends of different identifiers are registered in either order. -/
theorem IsOrdered.insert_comm (hg : g.IsOrdered) (hbc : b.storageId ≠ c.storageId) :
    (g.insert b).insert c = (g.insert c).insert b := by
  refine ((hg.insert b).insert c).eq_of_backend? ((hg.insert c).insert b) fun id => ?_
  rw [backend?_insert, backend?_insert, backend?_insert, backend?_insert]
  by_cases hb : b.storageId = id
  · rw [if_pos hb, if_pos hb, if_neg fun hc => hbc (hb.trans hc.symm)]
  · rw [if_neg hb, if_neg hb]

/-! ### One registration after the other -/

/-- The registry after backends are registered one after the other, and the reports of it. -/
def registerAll (g : Registry) (bs : List Backend) : Traced Registry := bs.foldlM register g

/-- `b` is the last of the backends that has the identifier. -/
def IsLast (bs : List Backend) (id : String) (b : Backend) : Prop :=
  b.storageId = id ∧ ∃ earlier later, bs = earlier ++ b :: later ∧ ∀ c ∈ later, c.storageId ≠ id

theorem not_isLast_nil : ¬IsLast [] id b := by
  rintro ⟨-, earlier, later, heq, -⟩
  simp at heq

theorem isLast_concat_iff :
    IsLast (bs ++ [c]) id b ↔ if c.storageId = id then c = b else IsLast bs id b := by
  constructor
  · rintro ⟨hb, earlier, later, heq, hlater⟩
    rcases later.eq_nil_or_concat with rfl | ⟨later, d, rfl⟩
    · obtain ⟨-, rfl⟩ : bs = earlier ∧ c = b := by simpa using List.append_inj' heq rfl
      rw [if_pos hb]
    · rw [List.concat_eq_append, ← List.cons_append, ← List.append_assoc] at heq
      obtain ⟨rfl, hcd⟩ := List.append_inj' heq rfl
      obtain rfl : c = d := List.singleton_inj.mp hcd
      rw [if_neg (hlater c (by simp))]
      exact ⟨hb, earlier, later, rfl, fun x hx => hlater x (by simp [hx])⟩
  · split
    · rintro rfl
      exact ⟨‹_›, bs, [], rfl, by simp⟩
    · next hc =>
        rintro ⟨hb, earlier, later, rfl, hlater⟩
        refine ⟨hb, earlier, later ++ [c], by simp, fun x hx => ?_⟩
        rcases List.mem_append.mp hx with hx | hx
        · exact hlater x hx
        · exact List.mem_singleton.mp hx ▸ hc

theorem exists_isLast_iff : (∃ b, IsLast bs id b) ↔ ∃ b ∈ bs, b.storageId = id := by
  induction bs using List.reverseRecOn with
  | nil => simp [not_isLast_nil]
  | append_singleton bs c ih =>
      by_cases hc : c.storageId = id
      · simp [isLast_concat_iff, hc]
      · simp [isLast_concat_iff, hc, ih, or_and_right, exists_or]

/-- Ordered, each identifier standing for the last backend that has it. -/
structure Holds (g : Registry) (bs : List Backend) : Prop where
  ordered : g.IsOrdered
  last    : ∀ {id b}, g.backend? id = some b ↔ IsLast bs id b

theorem holds_empty : Holds .empty [] where
  ordered := isOrdered_empty
  last    := by
    intro id b
    have hnone : empty.backend? id = none := rfl
    simp [hnone, not_isLast_nil]

theorem Holds.insert (hg : g.Holds bs) (b : Backend) : (g.insert b).Holds (bs ++ [b]) where
  ordered := hg.ordered.insert b
  last    := by
    intro id c
    rw [backend?_insert, isLast_concat_iff]
    split
    · exact Option.some_inj
    · exact hg.last

/-- **Registrations** one after the other keep what was registered last under each identifier. -/
theorem Holds.registerAll : ∀ {cs bs : List Backend} {g : Registry}, g.Holds bs →
    (g.registerAll cs).value.Holds (bs ++ cs)
  | [],      bs, g, hg => by
      rw [List.append_nil]
      exact hg
  | c :: cs, bs, g, hg => by
      have hcs : ((g.insert c).registerAll cs).value.Holds (bs ++ [c] ++ cs) :=
        (hg.insert c).registerAll
      rw [List.append_assoc] at hcs
      exact hcs

/-! ### What registrations come to -/

/-- The registry is what comes of registering these backends one after the other: it lists each
identifier once, ascending; an identifier stands for the backend that was registered last under it,
and so does its extension; and a registration changes nothing for other identifiers. -/
structure Registers (g : Registry) (bs : List Backend) : Prop where
  ascending   : g.storageIds.Pairwise (· < ·)
  listed      : ∀ id, id ∈ g.storageIds ↔ ∃ b ∈ bs, b.storageId = id
  available   : ∀ id b, g.backend id = .ok b ↔ IsLast bs id b
  unavailable : ∀ id e, g.backend id = .error e ↔
                  e = .backendUnavailable id ∧ ∀ b ∈ bs, b.storageId ≠ id
  extension   : ∀ id b, g.backend id = .ok b → g.segmentExtension id = b.extension
  fallback    : ∀ id e, g.backend id = .error e →
                  g.segmentExtension id = Database.backend.extension
  others      : ∀ b id, b.storageId ≠ id →
                  (g.register b).value.backend id = g.backend id ∧
                  (g.register b).value.segmentExtension id = g.segmentExtension id
  commutes    : ∀ b c, b.storageId ≠ c.storageId →
                  ((g.register b).value.register c).value =
                    ((g.register c).value.register b).value

theorem Holds.registers (hg : g.Holds bs) : g.Registers bs where
  ascending   := hg.ordered
  listed id   := by
    rw [mem_storageIds_iff, ← exists_isLast_iff]
    exact exists_congr fun b => hg.last
  available id b := backend_eq_ok_iff.trans hg.last
  unavailable id e := by
    have hlast : (∃ b, g.backend? id = some b) ↔ ∃ b ∈ bs, b.storageId = id := by
      rw [← exists_isLast_iff]
      exact exists_congr fun b => hg.last
    rw [backend_eq_error_iff, Option.eq_none_iff_forall_ne_some]
    refine and_congr_right fun _ => ?_
    simpa using not_congr hlast
  extension id b hb := segmentExtension_of_backend? (backend_eq_ok_iff.mp hb)
  fallback id e he := segmentExtension_of_none (backend_eq_error_iff.mp he).2
  others b id hb := ⟨backend_insert_of_ne hb, segmentExtension_insert_of_ne hb⟩
  commutes b c hbc := hg.ordered.insert_comm hbc

/-- **Registrations** one after the other, in a registry that is empty or has the backends of this
library. -/
theorem registers_registerAll (bs : List Backend) :
    Registers (registerAll .empty bs).value bs ∧
      Registers (registerAll standard.value bs).value (Database.backend :: bs) :=
  ⟨holds_empty.registerAll.registers, (holds_empty.insert Database.backend).registerAll.registers⟩

end RecordingIndex.Registry
