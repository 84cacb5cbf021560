import RecordingIndex.Proofs.Reindex.Session

/-!
# Proofs — Reindex — what is handed on to be persisted

A run hands on one description, once everything before has succeeded (`Ready`), and nothing
otherwise; a run that hands on nothing leaves the file system as it was (`PersistsOnce`).  So does
each call of a sequence, whatever came of the others (`persists_answers`).
-/

namespace RecordingIndex

/-- The description that is handed on, and its directory. -/
def Notice.handedOver? : Notice → Option (Path × Metadata)
  | .handedOver dir m                               => some (dir, m)
  | .event _ | .passage _ _ | .opened _ | .closed _ => none

theorem Notice.handedOver?_eq_none (n : Notice) (h : n.isCall = false) : n.handedOver? = none := by
  cases n with
  | event | passage => rfl
  | opened | closed | handedOver => cases h

/-- The descriptions handed on to be persisted, in order. -/
def Traced.handedOver {α : Type} (t : Traced α) : List (Path × Metadata) :=
  t.notices.filterMap Notice.handedOver?

theorem Backend.handedOver_calls (b : Backend) (fs : FileSystem) (path : Path) :
    (b.calls fs path).filterMap Notice.handedOver? = [] := by
  rw [calls]
  split <;> rfl

namespace Reindexer

open Reindex

variable {r : Reindexer} {fs : FileSystem} {dir : Path} {m : Metadata}

/-- A description is ready to be persisted: there are segments, they can be ordered, their format is
registered, and the snapshot of the first is recovered. -/
inductive Ready (r : Reindexer) (fs : FileSystem) (dir : Path) : Metadata → Prop where
  | intro {paths : List Path} {segments : List Segment} {first : Segment} {b : Backend}
      {s : Snapshot}
      (files : r.segmentFiles fs dir = .ok paths) (found : paths ≠ [])
      (order : Segment.order paths = .ok segments) (head : segments.head? = some first)
      (backend : r.registry.backend r.options.storageId = .ok b)
      (snapshot : (recover b fs first.path).trace.value = .ok s) :
      Ready r fs dir (finalized fs dir (reconciled s.metadata segments r.options))

theorem ready_iff :
    r.Ready fs dir m ↔ ∃ ts d, Prepared r fs dir ts (.ok (some d)) ∧ d.metadata = m := by
  constructor
  · rintro ⟨files, found, order, head, backend, snapshot⟩
    obtain ⟨rest, rfl⟩ := List.head?_eq_some_iff.mp head
    exact ⟨_, _, .drafted files order backend snapshot, rfl⟩
  · rintro ⟨ts, d, prepared, rfl⟩
    cases prepared with
    | drafted files order backend snapshot =>
        refine .intro files ?_ order rfl backend snapshot
        rintro rfl
        simp at order

/-- Nothing is ready but what a run has prepared. -/
theorem Prepared.ready_iff_exists {ts : List Stage} {x : Except Failure (Option Draft)}
    (h : Prepared r fs dir ts x) : r.Ready fs dir m ↔ ∃ d, x = .ok (some d) ∧ d.metadata = m := by
  rw [ready_iff]
  constructor
  · rintro ⟨us, d, hd, hm⟩
    exact ⟨d, h.unique hd, hm⟩
  · rintro ⟨d, rfl, hm⟩
    exact ⟨ts, d, h, hm⟩

/-- What a run hands on, and what it leaves as it was. -/
structure PersistsOnce (r : Reindexer) (fs : FileSystem) (dir : Path) (run : Run) : Prop where
  empty   : ∀ d, run.outcome = .ok (.noSegments d) →
              run.attempt.handedOver = [] ∧ run.fileSystem = fs
  failed  : ∀ ts e, Prepared r fs dir ts (.error e) →
              run.outcome = .error e ∧ run.attempt.handedOver = [] ∧ run.fileSystem = fs
  error   : ∀ e, run.outcome = .error e →
              (∃ ts, Prepared r fs dir ts (.error e)) ∨
              ∃ m, r.Ready fs dir m ∧ (r.persister.write fs dir m).attempt.trace.value = .error e
  once    : ∀ m, run.attempt.handedOver = [(dir, m)] ↔ r.Ready fs dir m
  never   : run.attempt.handedOver = [] ↔ ∀ m, ¬r.Ready fs dir m
  written : ∀ m, r.Ready fs dir m → run.fileSystem = (r.persister.write fs dir m).fileSystem

theorem Prepared.handedOver_runAfter {ts : List Stage} {x : Except Failure (Option Draft)}
    (h : Prepared r fs dir ts x) (before : Stage) :
    (r.runAfter before fs dir).attempt.handedOver =
      (handings dir x).filterMap Notice.handedOver? := by
  have hvisits : (r.visits fs dir).filterMap Notice.handedOver? = [] := by
    rw [visits]
    split
    · exact Backend.handedOver_calls _ _ _
    · rfl
  rw [Traced.handedOver, h.filterMap_notices before Notice.handedOver?_eq_none, hvisits,
    List.nil_append]

/-- **One run** hands on what is ready, and changes nothing if nothing is. -/
theorem persistsOnce_runAfter (r : Reindexer) (before : Stage) (fs : FileSystem) (dir : Path) :
    r.PersistsOnce fs dir (r.runAfter before fs dir) := by
  obtain ⟨us, x, prepared⟩ := exists_prepared r fs dir
  obtain ⟨ts, ran, -⟩ := ran_runAfter r before fs dir
  have handed := prepared.handedOver_runAfter before
  -- Nothing is handed on unless a draft is prepared.
  have ready : ∀ m, r.Ready fs dir m ↔ ∃ d, x = .ok (some d) ∧ d.metadata = m :=
    fun m => prepared.ready_iff_exists
  constructor
  case empty =>
    intro d h
    rw [h] at ran
    generalize (r.runAfter before fs dir).fileSystem = fs' at ran ⊢
    cases ran with
    | empty hnone =>
        rw [handed, prepared.unique hnone]
        exact ⟨rfl, rfl⟩
  case failed =>
    intro vs e h
    obtain ⟨hfs, hout⟩ := (Ran.failed h).runAfter before
    rw [handed, prepared.unique h]
    exact ⟨hout, rfl, hfs⟩
  case error =>
    intro e h
    rw [h] at ran
    generalize (r.runAfter before fs dir).fileSystem = fs' at ran
    cases ran with
    | failed hfailed => exact .inl ⟨_, hfailed⟩
    | unpersisted hdraft written => exact .inr ⟨_, ready_iff.mpr ⟨_, _, hdraft, rfl⟩, written⟩
  case once =>
    intro m
    rw [handed, ready]
    rcases x with e | _ | d <;> simp [handings, Notice.handedOver?]
  case never =>
    rw [handed]
    simp only [ready]
    rcases x with e | _ | d <;> simp [handings, Notice.handedOver?]
  case written =>
    intro m h
    obtain ⟨vs, d, hd, rfl⟩ := ready_iff.mp h
    exact hd.fileSystem_runAfter before

/-- A call hands on what is ready; taking a snapshot hands on nothing. -/
def Persists (r : Reindexer) : Call → Answer → Prop
  | .reindex fs dir, .reindexed run      => r.PersistsOnce fs dir run
  | .recover _ _ _,  .recovered snapshot => snapshot.handedOver = []
  | _,               _                   => False

/-- **Each call of a sequence** hands on what is ready then, and changes nothing if nothing is. -/
theorem persists_answers (r : Reindexer) (before : Stage) (calls : List Call) :
    List.Forall₂ r.Persists calls (r.answers before calls) := by
  refine forall₂_answers ?_ calls before
  intro before c
  cases c with
  | reindex fs dir => exact persistsOnce_runAfter r before fs dir
  | recover b fs path =>
      show (recover b fs path).trace.handedOver = []
      rw [Traced.handedOver, ← Traced.filterMap_calls Notice.handedOver?_eq_none, calls_recover,
        Backend.handedOver_calls]

end Reindexer

end RecordingIndex
