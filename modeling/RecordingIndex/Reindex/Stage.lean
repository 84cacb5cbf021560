import RecordingIndex.Failure

/-!
# Reindex — the stages of a run
-/

namespace RecordingIndex.Reindex

/-- How far a run has come. -/
inductive Stage where
  | idle
  | discovering
  | ordering
  | recovering
  | reconciling
  | finalizing
  | persisting
  | done
  | failed (kind : Failure.Kind)
  deriving DecidableEq

namespace Stage

/-- Whether a run ends here. -/
def isTerminal : Stage → Bool
  | .done | .failed _ => true
  | _                 => false

/-- The text of a stage. -/
def text : Stage → String
  | .idle        => "idle"
  | .discovering => "discovering"
  | .ordering    => "ordering"
  | .recovering  => "recovering"
  | .reconciling => "reconciling"
  | .finalizing  => "finalizing"
  | .persisting  => "persisting"
  | .done        => "done"
  | .failed kind => "failed(" ++ kind.name ++ ")"

end Stage

end RecordingIndex.Reindex
