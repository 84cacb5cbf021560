import RecordingIndex.Notice

/-!
# Reindex — the progress of a run

A run keeps the stage it has reached and the passages it has made (`Progress`).  A passage leads
from the stage that was reached before, whatever that was, and what a failure leaves is kept: a
stage changes by `Staged.pass` and `Staged.reset` alone.
-/

namespace RecordingIndex.Reindex

/-- The change from one stage to another. -/
structure Passage where
  previous : Stage
  next     : Stage
  deriving DecidableEq

/-- The stage reached, and the passages made. -/
structure Progress where
  stage    : Stage
  passages : List Passage
  deriving DecidableEq

/-- Traced steps that may change the stage. -/
abbrev Staged := StateT Progress Traced

/-- A task that may fail and may change the stage. -/
abbrev StagedAttempt := ExceptT Failure Staged

namespace Staged

/-- Forgets the stage that an earlier run ended in. -/
def reset : Staged Unit := modify fun p => { p with stage := .idle }

/-- Passes on to a stage. -/
def pass (next : Stage) : Staged Unit := do
  let p ← get
  set ({ stage := next, passages := p.passages ++ [⟨p.stage, next⟩] } : Progress)
  Traced.note (.passage p.stage next)

end Staged

/-- A task that knows no stages, as one that stays in its stage. -/
def StagedAttempt.ofAttempt {α : Type} (a : Attempt α) : StagedAttempt α :=
  ExceptT.mk (monadLift a.trace)

end RecordingIndex.Reindex
