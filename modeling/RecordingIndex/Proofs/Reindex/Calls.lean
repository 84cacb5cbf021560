import RecordingIndex.Reindex.Reconcile
import RecordingIndex.Reindex.Recovery
import RecordingIndex.Segment.Discovery

/-!
# Proofs — Reindex — what a task calls

Of all that a trace holds, the openings and closings of handles and the descriptions handed on are
its *calls* (`Traced.calls`).  Events are none, so looking for segments, reconciling and summing up
sizes call nothing.  Taking a snapshot opens the handle of the segment and closes it again,
whatever is made of it meanwhile (`calls_recover`).
-/

namespace RecordingIndex

/-- Whether the run called upon a backend or the persister. -/
def Notice.isCall : Notice → Bool
  | .opened _ | .closed _ | .handedOver _ _ => true
  | .event _ | .passage _ _                 => false

namespace Traced

variable {α β : Type}

/-- The calls in a trace, in order. -/
def calls (t : Traced α) : List Notice := t.notices.filter Notice.isCall

instance : LawfulMonad Traced :=
  LawfulMonad.mk' Traced (fun _ => by simp [Functor.map]) (fun _ _ => by simp [bind, pure])
    fun _ _ _ => by simp [bind]

@[simp] theorem calls_pure (a : α) : (pure a : Traced α).calls = [] := rfl

@[simp] theorem calls_bind (t : Traced α) (f : α → Traced β) :
    (t >>= f).calls = t.calls ++ (f t.value).calls := by
  simp [calls]

@[simp] theorem calls_map (f : α → β) (t : Traced α) : (f <$> t).calls = t.calls := by
  simp [← bind_pure_comp]

@[simp] theorem calls_report (level : Level) (source : Source) (message : String)
    (fields : List (String × FieldValue)) : (report level source message fields).calls = [] := rfl

/-- What only reports events calls nothing. -/
@[simp] theorem calls_monadLift (t : Logged α) : (monadLift t : Traced α).calls = [] :=
  List.filter_eq_nil_iff.mpr fun n hn => by
    obtain ⟨e, -, rfl⟩ := List.mem_map.mp hn
    simp [Notice.isCall]

/-- What is read off the calls alone is read off the notices. -/
theorem filterMap_calls {f : Notice → Option β} (hf : ∀ n, n.isCall = false → f n = none)
    (t : Traced α) : t.calls.filterMap f = t.notices.filterMap f := by
  rw [calls, List.filterMap_filter]
  congr
  funext n
  cases hn : n.isCall with
  | true => rfl
  | false => exact (hf n hn).symm

theorem calls_mapM {f : α → Traced β} (h : ∀ a, (f a).calls = []) :
    ∀ xs : List α, (xs.mapM f).calls = []
  | []      => by simp
  | x :: xs => by simp [h x, calls_mapM h xs]

end Traced

namespace Attempt

variable {α β : Type}

@[simp] theorem calls_trace_ofExcept (x : Except Failure α) : (ofExcept x).trace.calls = [] := by
  cases x <;> rfl

@[simp] theorem calls_trace_ofLogged (a : LoggedAttempt α) : (ofLogged a).trace.calls = [] :=
  Traced.calls_monadLift a.run

@[simp] theorem calls_trace_monadLift (t : Traced α) :
    (Attempt.trace (monadLift t)).calls = t.calls :=
  Traced.calls_map Except.ok t

@[simp] theorem value_trace_monadLift (t : Traced α) :
    (Attempt.trace (monadLift t)).value = .ok t.value := rfl

/-- A task goes on after another only if that succeeds. -/
theorem calls_trace_bind (a : Attempt α) (f : α → Attempt β) :
    (a >>= f).trace.calls =
      a.trace.calls ++
        match a.trace.value with
        | .ok x    => (f x).trace.calls
        | .error _ => [] := by
  have h : (a >>= f).trace.calls = (a.trace >>= ExceptT.bindCont f).calls := rfl
  rw [h, Traced.calls_bind]
  cases a.trace.value <;> rfl

end Attempt

/-! ### The steps of a run -/

theorem Segment.calls_discover (fs : FileSystem) (dir : Path) (ext : String) :
    (discover fs dir ext).trace.calls = [] := by
  rw [discover, Attempt.calls_trace_bind, Attempt.calls_trace_ofExcept]
  cases listed fs dir ext <;> rfl

/-- The calls of a visit: the handle is opened and closed again, if it can be opened at all. -/
def Backend.calls (b : Backend) (fs : FileSystem) (path : Path) : List Notice :=
  match (b.openReadOnly fs path).trace.value with
  | .ok _    => [.opened path, .closed path]
  | .error _ => []

theorem Backend.calls_visit {α : Type} (b : Backend) (fs : FileSystem) (path : Path)
    (use : Handle → LoggedAttempt α) : (b.visit fs path use).trace.calls = b.calls fs path := by
  have hopen : (Attempt.ofLogged (b.openReadOnly fs path)).trace.value =
      (b.openReadOnly fs path).trace.value := rfl
  rw [visit, Attempt.calls_trace_bind, Attempt.calls_trace_ofLogged, hopen, calls]
  cases (b.openReadOnly fs path).trace.value with
  | error e => rfl
  | ok handle =>
      have huse : (use handle).trace.calls = [] := Traced.calls_monadLift (use handle).run
      have hrelease : (Attempt.trace (monadLift handle.release)).calls = [] :=
        (Attempt.calls_trace_monadLift _).trans (Traced.calls_monadLift handle.release)
      have hreleased : (Attempt.trace (monadLift handle.release)).value = .ok () := rfl
      have hopened : (Traced.note (.opened path)).calls = [.opened path] := rfl
      have hclosed : (Traced.note (.closed path)).calls = [.closed path] := rfl
      simp [Attempt.calls_trace_bind, huse, hrelease, hreleased, hopened, hclosed]

namespace Reindex

theorem calls_reconcile (m : Metadata) (segments : List Segment) (o : Options) :
    (reconcile m segments o).calls = [] := rfl

theorem calls_reportSkipped (fs : FileSystem) (path : Path) :
    (reportSkipped fs path).calls = [] := by
  rw [reportSkipped]
  split <;> rfl

theorem calls_finalize (fs : FileSystem) (dir : Path) (m : Metadata) :
    (finalize fs dir m).calls = [] := by
  simp [finalize, Traced.calls_mapM, calls_reportSkipped]

theorem calls_report (s : Snapshot) (storageId : String) : (s.report storageId).calls = [] := by
  rw [Snapshot.report]
  split <;> rfl

/-- **Taking a snapshot** opens one handle at most, that of the segment, and closes it again. -/
theorem calls_recover (b : Backend) (fs : FileSystem) (path : Path) :
    (recover b fs path).trace.calls = b.calls fs path := by
  have hadapt : (Attempt.trace (ExceptT.adapt (asOpenFailure path)
      (b.visit fs path Handle.metadata))).calls = b.calls fs path := by
    rw [← b.calls_visit fs path Handle.metadata]
    exact Traced.calls_map _ _
  rw [recover, Attempt.calls_trace_bind, hadapt]
  split
  · rw [Attempt.calls_trace_bind, Attempt.calls_trace_monadLift, calls_report]
    exact List.append_nil _
  · rw [List.append_nil]

end Reindex

end RecordingIndex
