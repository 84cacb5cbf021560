import Mathlib.Data.List.Forall2
import RecordingIndex.Proofs.Reindex.Run

/-!
# Proofs — Reindex — calls one after the other

A reindexer is called again and again, and snapshots are taken in between (`Call`).  A call meets a
file system in any state; of the calls before it only the stage that they ended in is left.  So what
holds of a call at every stage holds of each call of a sequence (`forall₂_answers`).
-/

namespace RecordingIndex

namespace Reindex

/-- A call and the file system that it meets. -/
inductive Call where
  | reindex (fs : FileSystem) (dir : Path)
  | recover (b : Backend) (fs : FileSystem) (path : Path)

/-- What a call leaves behind. -/
inductive Answer where
  | reindexed (run : Run)
  | recovered (snapshot : Traced (Except Failure Snapshot))

namespace Answer

/-- What happened during the call. -/
def notices : Answer → List Notice
  | .reindexed run      => run.attempt.notices
  | .recovered snapshot => snapshot.notices

/-- The stage after the call; taking a snapshot leaves it. -/
def stage (before : Stage) : Answer → Stage
  | .reindexed run => run.stage
  | .recovered _   => before

end Answer

end Reindex

namespace Reindexer

open Reindex

/-- The answer to a call. -/
def answer (r : Reindexer) (before : Stage) : Call → Answer
  | .reindex fs dir    => .reindexed (r.runAfter before fs dir)
  | .recover b fs path => .recovered (recover b fs path).trace

/-- The answers to calls, one after the other. -/
def answers (r : Reindexer) : Stage → List Call → List Answer
  | _,      []      => []
  | before, c :: cs => r.answer before c :: r.answers ((r.answer before c).stage before) cs

/-- **What every call does** on its own, each call of a sequence does. -/
theorem forall₂_answers {r : Reindexer} {P : Call → Answer → Prop}
    (h : ∀ before c, P c (r.answer before c)) :
    ∀ (cs : List Call) (before : Stage), List.Forall₂ P cs (r.answers before cs)
  | [],      _      => .nil
  | c :: cs, before => .cons (h before c) (forall₂_answers h cs _)

end Reindexer

end RecordingIndex
