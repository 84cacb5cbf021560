import RecordingIndex.Proofs.Reindex.Session
import RecordingIndex.Proofs.Segment.Order

/-!
# Proofs — Reindex — the handles of segments

A run opens the first segment in order, if it comes so far, and nothing else (`OpensFirst`).  Every
call closes what it opens, so that after each call of a sequence no other handles are open than
before (`handles_answers`).
-/

namespace RecordingIndex

/-! ### Open handles -/

/-- The path of the handle that is opened. -/
def Notice.opened? : Notice → Option Path
  | .opened path                                          => some path
  | .event _ | .passage _ _ | .closed _ | .handedOver _ _ => none

theorem Notice.opened?_eq_none (n : Notice) (h : n.isCall = false) : n.opened? = none := by
  cases n with
  | event | passage => rfl
  | opened | closed | handedOver => cases h

/-- The paths of the handles opened, in order. -/
def Traced.opened {α : Type} (t : Traced α) : List Path := t.notices.filterMap Notice.opened?

/-- The paths of the open handles once something has happened. -/
def Notice.handles (hs : List Path) : Notice → List Path
  | .opened path                              => path :: hs
  | .closed path                              => hs.erase path
  | .event _ | .passage _ _ | .handedOver _ _ => hs

/-- The paths of the open handles once all this has happened. -/
def openHandles (hs : List Path) (ns : List Notice) : List Path := ns.foldl Notice.handles hs

@[simp] theorem openHandles_append (hs : List Path) (ns ms : List Notice) :
    openHandles hs (ns ++ ms) = openHandles (openHandles hs ns) ms :=
  List.foldl_append

theorem Traced.openHandles_notices {α : Type} (t : Traced α) (hs : List Path) :
    openHandles hs t.notices = openHandles hs t.calls := by
  rw [openHandles, openHandles, calls, List.foldl_filter]
  congr
  funext hs n
  cases n <;> rfl

namespace Backend

variable (b : Backend) (fs : FileSystem) (path : Path)

theorem opened_calls : (b.calls fs path).filterMap Notice.opened? =
    if (b.openReadOnly fs path).trace.value.toOption.isSome then [path] else [] := by
  rw [calls]
  cases (b.openReadOnly fs path).trace.value <;> rfl

theorem openHandles_calls (hs : List Path) : openHandles hs (b.calls fs path) = hs := by
  rw [calls]
  split
  · exact List.erase_cons_head path hs
  · rfl

end Backend

namespace Reindexer

open Reindex

variable {r : Reindexer} {fs : FileSystem} {dir : Path}

/-! ### Runs -/

/-- Handles are opened only on the segment with the lowest number, once, and only if the run comes
so far. -/
structure OpensFirst (r : Reindexer) (fs : FileSystem) (dir : Path) (opened : List Path) :
    Prop where
  once         : opened.length ≤ 1
  lowest       : ∀ p ∈ opened, ∃ paths id,
                   r.segmentFiles fs dir = .ok paths ∧ p ∈ paths ∧ Segment.idOf p = .ok id ∧
                   ∀ q ∈ paths, q ≠ p → ∃ j, Segment.idOf q = .ok j ∧ id < j
  undiscovered : ∀ e, r.segmentFiles fs dir = .error e → opened = []
  empty        : r.segmentFiles fs dir = .ok [] → opened = []
  unordered    : ∀ paths e, r.segmentFiles fs dir = .ok paths → Segment.order paths = .error e →
                   opened = []
  unavailable  : ∀ e, r.registry.backend r.options.storageId = .error e → opened = []
  opens        : ∀ paths first rest b handle, r.segmentFiles fs dir = .ok paths →
                   Segment.order paths = .ok (first :: rest) →
                   r.registry.backend r.options.storageId = .ok b →
                   (b.openReadOnly fs first.path).trace.value = .ok handle → opened = [first.path]

theorem visited?_eq_some {b : Backend} {first : Segment} (h : r.visited? fs dir = some (b, first)) :
    ∃ paths rest, r.segmentFiles fs dir = .ok paths ∧ Segment.order paths = .ok (first :: rest) ∧
      r.registry.backend r.options.storageId = .ok b := by
  rw [visited?] at h
  split at h
  · cases h
  next paths files =>
  split at h
  · next order backend =>
      cases h
      exact ⟨paths, _, files, order, backend⟩
  · cases h

theorem opened_runAfter (r : Reindexer) (before : Stage) (fs : FileSystem) (dir : Path) :
    (r.runAfter before fs dir).attempt.opened = (r.visits fs dir).filterMap Notice.opened? := by
  obtain ⟨us, x, prepared⟩ := exists_prepared r fs dir
  have hhandings : (handings dir x).filterMap Notice.opened? = [] := by
    rcases x with e | _ | d <;> rfl
  rw [Traced.opened, prepared.filterMap_notices before Notice.opened?_eq_none, hhandings,
    List.append_nil]

theorem openHandles_runAfter (r : Reindexer) (before : Stage) (fs : FileSystem) (dir : Path)
    (hs : List Path) : openHandles hs (r.runAfter before fs dir).attempt.notices = hs := by
  obtain ⟨us, x, prepared⟩ := exists_prepared r fs dir
  have hvisits : openHandles hs (r.visits fs dir) = hs := by
    rw [visits]
    split
    · exact Backend.openHandles_calls _ _ _ hs
    · rfl
  rw [Traced.openHandles_notices, prepared.calls_runAfter before, openHandles_append, hvisits]
  rcases x with e | _ | d <;> rfl

/-- **One run** opens the first segment only. -/
theorem opensFirst_runAfter (r : Reindexer) (before : Stage) (fs : FileSystem) (dir : Path) :
    r.OpensFirst fs dir (r.runAfter before fs dir).attempt.opened := by
  rw [opened_runAfter, visits]
  cases visited : r.visited? fs dir with
  | none =>
      refine ⟨by simp, by simp, fun _ _ => rfl, fun _ => rfl, fun _ _ _ _ => rfl, fun _ _ => rfl,
        fun paths first rest b handle files order backend _ => ?_⟩
      simp [visited?, files, order, backend] at visited
  | some visit =>
  rcases visit with ⟨b, first⟩
  obtain ⟨paths, rest, files, order, backend⟩ := visited?_eq_some visited
  simp only [Backend.opened_calls]
  constructor
  case once => split <;> simp
  case lowest =>
    intro p hp
    obtain rfl : p = first.path := by
      split at hp
      · exact List.mem_singleton.mp hp
      · cases hp
    obtain ⟨hmem, hid, hlowest⟩ := Segment.lowest_of_order order
    exact ⟨paths, first.id, files, hmem, hid, hlowest⟩
  case undiscovered =>
    intro e h
    cases files.symm.trans h
  case empty =>
    intro h
    cases files.symm.trans h
    simp at order
  case unordered =>
    intro paths' e h horder
    cases files.symm.trans h
    cases order.symm.trans horder
  case unavailable =>
    intro e h
    cases backend.symm.trans h
  case opens =>
    intro paths' first' rest' b' handle files' order' backend' hopen
    cases files.symm.trans files'
    cases order.symm.trans order'
    cases backend.symm.trans backend'
    rw [hopen]
    rfl

/-! ### Calls one after the other -/

/-- What a call opens or tells. -/
def Visits (r : Reindexer) : Call → Answer → Prop
  | .reindex fs dir,    .reindexed run      => r.OpensFirst fs dir run.attempt.opened
  | .recover b fs path, .recovered snapshot => Recovers b fs path snapshot.value
  | _,                  _                   => False

/-- A call closes what it opens. -/
theorem openHandles_answer (r : Reindexer) (before : Stage) (hs : List Path) :
    ∀ c, openHandles hs (r.answer before c).notices = hs
  | .reindex fs dir    => openHandles_runAfter r before fs dir hs
  | .recover b fs path => by
      show openHandles hs (recover b fs path).trace.notices = hs
      rw [Traced.openHandles_notices, calls_recover, Backend.openHandles_calls]

/-- So do calls one after the other. -/
theorem openHandles_answers (r : Reindexer) (hs : List Path) :
    ∀ (cs : List Call) (before : Stage) (n : Nat),
      openHandles hs (((r.answers before cs).take n).flatMap Answer.notices) = hs
  | [],      before, n     => by
      rw [answers, List.take_nil]
      rfl
  | c :: cs, before, 0     => rfl
  | c :: cs, before, n + 1 => by
      rw [answers, List.take_succ_cons, List.flatMap_cons, openHandles_append, openHandles_answer]
      exact openHandles_answers r hs cs _ n

/-- **Each call of a sequence** opens or tells what it should, and leaves as many handles open as
there were. -/
theorem handles_answers (r : Reindexer) (before : Stage) (calls : List Call) :
    List.Forall₂ r.Visits calls (r.answers before calls) ∧
      ∀ (hs : List Path) (n : Nat),
        openHandles hs (((r.answers before calls).take n).flatMap Answer.notices) = hs := by
  constructor
  · refine forall₂_answers ?_ calls before
    intro before c
    cases c with
    | reindex fs dir => exact opensFirst_runAfter r before fs dir
    | recover b fs path => exact recovers_recover b fs path
  · intro hs n
    exact openHandles_answers r hs calls before n

end Reindexer

end RecordingIndex
