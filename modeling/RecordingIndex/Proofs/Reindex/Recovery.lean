import RecordingIndex.Proofs.Reindex.Calls

/-!
# Proofs — Reindex — the snapshot of a segment

A snapshot is what the backend tells of the segment once it is open, or its failure as one to open
the segment (`recovers_recover`).
-/

namespace RecordingIndex

@[simp] theorem Attempt.value_trace_ofExcept {α : Type} (x : Except Failure α) :
    (Attempt.ofExcept x).trace.value = x := by
  cases x <;> rfl

theorem Attempt.value_trace_bind {α β : Type} (t : Attempt α) (f : α → Attempt β) :
    (t >>= f).trace.value =
      match t.trace.value with
      | .ok a    => (f a).trace.value
      | .error e => .error e := by
  have hbind : (t >>= f).trace.value = (ExceptT.bindCont f t.trace.value).value := rfl
  rw [hbind]
  cases t.trace.value <;> rfl

theorem Attempt.value_trace_adapt {α : Type} (f : Failure → Failure) (t : Attempt α) :
    (Attempt.trace (ExceptT.adapt f t)).value = t.trace.value.mapError f := rfl

namespace Backend

variable (b : Backend) (fs : FileSystem) (path : Path)

/-- What the backend tells of a segment: what the handle says, once it is open. -/
def tells : Except Failure Metadata :=
  match (b.openReadOnly fs path).trace.value with
  | .ok handle => handle.metadata.trace.value
  | .error e   => .error e

theorem value_visit_metadata : (b.visit fs path Handle.metadata).trace.value = b.tells fs path := by
  have hopen : (Attempt.ofLogged (b.openReadOnly fs path)).trace.value =
      (b.openReadOnly fs path).trace.value := rfl
  rw [visit, Attempt.value_trace_bind, hopen, tells]
  cases (b.openReadOnly fs path).trace.value with
  | error e => rfl
  | ok handle =>
      have hrelease : (Attempt.trace (monadLift handle.release)).value = .ok () := rfl
      simp only [Attempt.value_trace_bind, Attempt.value_trace_monadLift,
        Attempt.value_trace_ofExcept, hrelease]

end Backend

namespace Reindex

/-- The snapshot of a segment is what its backend tells, or a failure to open it. -/
theorem value_recover (b : Backend) (fs : FileSystem) (path : Path) :
    (recover b fs path).trace.value =
      match (b.visit fs path Handle.metadata).trace.value with
      | .ok m    => .ok ⟨m, path⟩
      | .error e => .error (asOpenFailure path e) := by
  rw [recover, Attempt.value_trace_bind, Attempt.value_trace_adapt]
  cases (b.visit fs path Handle.metadata).trace.value <;> rfl

/-- A snapshot is what the backend tells of the segment; a failure of the backend is one to open the
segment, and stays as it is if it is one already. -/
structure Recovers (b : Backend) (fs : FileSystem) (path : Path) (x : Except Failure Snapshot) :
    Prop where
  told    : ∀ m, b.tells fs path = .ok m → x = .ok ⟨m, path⟩
  kept    : ∀ p reason, b.tells fs path = .error (.segmentOpenFailed p reason) →
              x = .error (.segmentOpenFailed p reason)
  wrapped : ∀ e, b.tells fs path = .error e → e.kind ≠ .segmentOpenFailed →
              x = .error (.segmentOpenFailed path e.message)

theorem asOpenFailure_of_kind_ne {path : Path} {e : Failure} (h : e.kind ≠ .segmentOpenFailed) :
    asOpenFailure path e = .segmentOpenFailed path e.message := by
  cases e with
  | segmentOpenFailed => exact absurd rfl h
  | io | invalidDirectory | malformedSegmentName | duplicateSegmentId | backendUnavailable
  | noSegmentsFound | persistFailed | storage | metadata | config => rfl

/-- **The snapshot of a segment** is what the backend tells. -/
theorem recovers_recover (b : Backend) (fs : FileSystem) (path : Path) :
    Recovers b fs path (recover b fs path).trace.value := by
  rw [value_recover, b.value_visit_metadata]
  constructor
  case told =>
    intro m h
    rw [h]
  case kept =>
    intro p reason h
    rw [h]
    rfl
  case wrapped =>
    intro e h hkind
    rw [h, ← asOpenFailure_of_kind_ne hkind]

end Reindex

end RecordingIndex
