import RecordingIndex.Database.Segment
import RecordingIndex.Proofs.Reindex.Recovery

/-!
# Proofs — Reindex — what a backend reads of a segment

A backend *reads bytes* (`Backend.ReadsBytes`) if what it tells of a file depends on the path and
the bytes of the file alone.  The backend of this library does (`Database.readsBytes_backend`).
-/

namespace RecordingIndex

namespace Contents

/-- The two files hold the same bytes. -/
def Same : Contents → Contents → Prop
  | .data b z,      .data b' z'      => b ++ List.replicate z 0 = b' ++ List.replicate z' 0
  | .database db n, .database db' n' => db = db' ∧ n = n'
  | _,              _                => False

theorem Same.refl : ∀ c : Contents, c.Same c
  | .data _ _     => rfl
  | .database _ _ => ⟨rfl, rfl⟩

variable {c c' : Contents}

theorem Same.size_eq (h : c.Same c') : c.size = c'.size := by
  cases c with
  | data b z =>
      cases c' with
      | data b' z' => simpa [size] using congrArg List.length h
      | database => exact h.elim
  | database db n =>
      cases c' with
      | data => exact h.elim
      | database db' n' => exact h.2

theorem Same.database?_eq (h : c.Same c') : c.database? = c'.database? := by
  have hsize := h.size_eq
  cases c with
  | data b z =>
      cases c' with
      | data b' z' =>
          simp only [size] at hsize
          simp only [database?, hsize]
      | database => exact h.elim
  | database db n =>
      cases c' with
      | data => exact h.elim
      | database db' n' => exact congrArg some h.1

end Contents

/-- What a backend tells of a file depends on the path and the bytes of the file alone. -/
def Backend.ReadsBytes (b : Backend) : Prop :=
  ∀ fs fs' path c c', fs.contents path = .ok c → fs'.contents path = .ok c' → c.Same c' →
    b.tells fs path = b.tells fs' path

theorem Database.readsBytes_backend : Database.backend.ReadsBytes := by
  intro fs fs' path c c' hc hc' hsame
  have hopen : (backend.openReadOnly fs path).trace.value =
      (backend.openReadOnly fs' path).trace.value := by
    show (openSegment fs path).trace.value = (openSegment fs' path).trace.value
    rw [openSegment, openSegment, hc, hc']
    simp only [schemaFault?, hsame.database?_eq, hsame.size_eq]
  rw [Backend.tells, hopen, Backend.tells]

end RecordingIndex
