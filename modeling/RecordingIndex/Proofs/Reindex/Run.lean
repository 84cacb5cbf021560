import RecordingIndex.Proofs.Reindex.Progress
import RecordingIndex.Proofs.Reindex.Recovery
import RecordingIndex.Proofs.Segment.Discovery
import RecordingIndex.Proofs.Segment.Order
import RecordingIndex.Reindex.Run

/-!
# Proofs — Reindex — what a run can do

`Prepared` says all that the part of a run before persisting can do: the stages it passes through,
where it ends, and what each step before that gave.  `Ran` says the same of the whole run.  A run
does one of these things (`exists_prepared`, `exists_ran`), and what these say is what it does
(`Prepared.goes`, `Ran.goes`), so what holds of runs is read off the cases.
-/

namespace RecordingIndex

namespace Reindexer

open Reindex

variable {r : Reindexer} {fs : FileSystem} {dir : Path}

/-- The segment files that the run looks for in a directory. -/
def segmentFiles (r : Reindexer) (fs : FileSystem) (dir : Path) : Except Failure (List Path) :=
  Segment.listed fs dir (r.registry.segmentExtension r.options.storageId)

/-- The stages of a run up to one, and what it has come to there. -/
inductive Prepared (r : Reindexer) (fs : FileSystem) (dir : Path) :
    List Stage → Except Failure (Option Draft) → Prop where
  | undiscovered {e : Failure}
      (files : r.segmentFiles fs dir = .error e) : Prepared r fs dir [.discovering] (.error e)
  | empty
      (files : r.segmentFiles fs dir = .ok []) : Prepared r fs dir [.discovering] (.ok none)
  | unordered {paths : List Path} {e : Failure}
      (files : r.segmentFiles fs dir = .ok paths)
      (order : Segment.order paths = .error e) :
      Prepared r fs dir [.discovering, .ordering] (.error e)
  | unavailable {paths : List Path} {first : Segment} {rest : List Segment} {e : Failure}
      (files : r.segmentFiles fs dir = .ok paths)
      (order : Segment.order paths = .ok (first :: rest))
      (backend : r.registry.backend r.options.storageId = .error e) :
      Prepared r fs dir [.discovering, .ordering, .recovering] (.error e)
  | unrecovered {paths : List Path} {first : Segment} {rest : List Segment} {b : Backend}
      {e : Failure}
      (files : r.segmentFiles fs dir = .ok paths)
      (order : Segment.order paths = .ok (first :: rest))
      (backend : r.registry.backend r.options.storageId = .ok b)
      (snapshot : (recover b fs first.path).trace.value = .error e) :
      Prepared r fs dir [.discovering, .ordering, .recovering] (.error e)
  | drafted {paths : List Path} {first : Segment} {rest : List Segment} {b : Backend}
      {s : Snapshot}
      (files : r.segmentFiles fs dir = .ok paths)
      (order : Segment.order paths = .ok (first :: rest))
      (backend : r.registry.backend r.options.storageId = .ok b)
      (snapshot : (recover b fs first.path).trace.value = .ok s) :
      Prepared r fs dir [.discovering, .ordering, .recovering, .reconciling, .finalizing]
        (.ok (some ⟨finalized fs dir (reconciled s.metadata (first :: rest) r.options),
          s.metadata.topicIdentities, s.source, remarksOn s⟩))

/-! ### What a run calls -/

/-- The segment that a run visits, with its backend: the first in order, if the run comes so far. -/
def visited? (r : Reindexer) (fs : FileSystem) (dir : Path) : Option (Backend × Segment) :=
  match r.segmentFiles fs dir with
  | .error _  => none
  | .ok paths =>
      match Segment.order paths, r.registry.backend r.options.storageId with
      | .ok (first :: _), .ok b => some (b, first)
      | _,                _     => none

/-- The calls of a run before it hands anything on. -/
def visits (r : Reindexer) (fs : FileSystem) (dir : Path) : List Notice :=
  match r.visited? fs dir with
  | some (b, first) => b.calls fs first.path
  | none            => []

/-- The calls by which a run hands on what it has prepared. -/
def handings (dir : Path) : Except Failure (Option Draft) → List Notice
  | .ok (some d)           => [.handedOver dir d.metadata]
  | .ok none | .error _    => []

/-! ### Before persisting -/

theorem goes_discover {x : Except Failure (List Path)} (h : r.segmentFiles fs dir = x) :
    Goes (StagedAttempt.ofAttempt (r.discover fs dir)).run [] [] x :=
  (Goes.attempt ((Segment.value_discover fs dir _).trans h)).of_calls
    (Segment.calls_discover fs dir _)

theorem goes_ofExcept {α : Type} {x y : Except Failure α} (h : x = y) :
    Goes (StagedAttempt.ofAttempt (Attempt.ofExcept x)).run [] [] y :=
  (Goes.attempt ((Attempt.value_trace_ofExcept x).trans h)).of_calls
    (Attempt.calls_trace_ofExcept x)

theorem goes_recover {b : Backend} {path : Path} {x : Except Failure Snapshot}
    (h : (recover b fs path).trace.value = x) :
    Goes (StagedAttempt.ofAttempt (recover b fs path)).run [] (b.calls fs path) x :=
  (Goes.attempt h).of_calls (calls_recover b fs path)

theorem not_isEmpty_of_order {paths : List Path} {x : Except Failure (List Segment)}
    (order : Segment.order paths = x) (hx : x ≠ .ok []) : ¬paths.isEmpty = true := by
  rw [List.isEmpty_iff]
  rintro rfl
  exact hx (order.symm.trans Segment.order_nil)

/-- **What `Prepared` says** is what the part of a run before persisting does. -/
theorem Prepared.goes {ts : List Stage} {x : Except Failure (Option Draft)}
    (h : Prepared r fs dir ts x) : Goes (r.prepare fs dir).run ts (r.visits fs dir) x := by
  cases h with
  | undiscovered files =>
      refine .of_calls ((Goes.passed _).andThen (goes_discover files).fails) ?_
      simp [visits, visited?, files]
  | empty files =>
      refine .of_calls ((Goes.passed _).andThen <| (goes_discover files).andThen <|
        (Goes.lifted _).andThen <| .ok _) ?_
      simp [visits, visited?, files]
  | unordered files order =>
      have found := not_isEmpty_of_order order (by simp)
      refine .of_calls ((Goes.passed _).andThen <| (goes_discover files).andThen <| .past found <|
        (Goes.passed _).andThen (goes_ofExcept order).fails) ?_
      simp [visits, visited?, files, order]
  | unavailable files order backend =>
      have found := not_isEmpty_of_order order (by simp)
      refine .of_calls ((Goes.passed _).andThen <| (goes_discover files).andThen <| .past found <|
        (Goes.passed _).andThen <| (goes_ofExcept order).andThen <|
        (Goes.passed _).andThen (goes_ofExcept backend).fails) ?_
      simp [visits, visited?, files, order, backend]
  | unrecovered files order backend snapshot =>
      have found := not_isEmpty_of_order order (by simp)
      refine .of_calls ((Goes.passed _).andThen <| (goes_discover files).andThen <| .past found <|
        (Goes.passed _).andThen <| (goes_ofExcept order).andThen <|
        (Goes.passed _).andThen <| (goes_ofExcept backend).andThen (goes_recover snapshot).fails) ?_
      simp [visits, visited?, files, order, backend]
  | drafted files order backend snapshot =>
      have found := not_isEmpty_of_order order (by simp)
      refine .of_calls ((Goes.passed _).andThen <| (goes_discover files).andThen <| .past found <|
        (Goes.passed _).andThen <| (goes_ofExcept order).andThen <|
        (Goes.passed _).andThen <| (goes_ofExcept backend).andThen <|
        (goes_recover snapshot).andThen <| (Goes.passed _).andThen <| (Goes.lifted _).andThen <|
        (Goes.passed _).andThen <| (Goes.lifted _).andThen <| .ok _) ?_
      simp [visits, visited?, files, order, backend, calls_reconcile, calls_finalize]

/-- A run comes to one result before persisting. -/
theorem Prepared.unique {ts us : List Stage} {x y : Except Failure (Option Draft)}
    (hx : Prepared r fs dir ts x) (hy : Prepared r fs dir us y) : x = y :=
  congrArg Prod.fst ((hx.goes ⟨.idle, []⟩).1.symm.trans (hy.goes ⟨.idle, []⟩).1)

theorem Prepared.exists_order {ts : List Stage} {d : Draft}
    (h : Prepared r fs dir ts (.ok (some d))) :
    ∃ paths ss, r.segmentFiles fs dir = .ok paths ∧ Segment.IsOrder paths ss := by
  cases h with
  | drafted files order => exact ⟨_, _, files, Segment.isOrder_of_order order⟩

/-- **Before persisting** a run does one of the things that `Prepared` lists. -/
theorem exists_prepared (r : Reindexer) (fs : FileSystem) (dir : Path) :
    ∃ ts x, Prepared r fs dir ts x := by
  cases files : r.segmentFiles fs dir with
  | error e => exact ⟨_, _, .undiscovered files⟩
  | ok paths =>
  by_cases hpaths : paths = []
  · subst hpaths
    exact ⟨_, _, .empty files⟩
  cases order : Segment.order paths with
  | error e => exact ⟨_, _, .unordered files order⟩
  | ok segments =>
  -- There is a path, so ordering leaves a first segment.
  have hsegments := (Segment.isOrder_of_order order).ne_nil hpaths
  obtain ⟨first, rest, rfl⟩ := List.exists_cons_of_ne_nil hsegments
  cases backend : r.registry.backend r.options.storageId with
  | error e => exact ⟨_, _, .unavailable files order backend⟩
  | ok b =>
  cases snapshot : (recover b fs first.path).trace.value with
  | error e => exact ⟨_, _, .unrecovered files order backend snapshot⟩
  | ok s => exact ⟨_, _, .drafted files order backend snapshot⟩

/-! ### The whole run -/

/-- The stages of a run before the last, the file system it leaves and what it comes to. -/
inductive Ran (r : Reindexer) (fs : FileSystem) (dir : Path) :
    List Stage → FileSystem → Except Failure Outcome → Prop where
  | failed {ts : List Stage} {e : Failure}
      (prepared : Prepared r fs dir ts (.error e)) : Ran r fs dir ts fs (.error e)
  | empty {ts : List Stage}
      (prepared : Prepared r fs dir ts (.ok none)) : Ran r fs dir ts fs (.ok (.noSegments dir))
  | unpersisted {ts : List Stage} {d : Draft} {e : Failure}
      (prepared : Prepared r fs dir ts (.ok (some d)))
      (written : (r.persister.write fs dir d.metadata).attempt.trace.value = .error e) :
      Ran r fs dir (ts ++ [.persisting]) (r.persister.write fs dir d.metadata).fileSystem (.error e)
  | persisted {ts : List Stage} {d : Draft}
      (prepared : Prepared r fs dir ts (.ok (some d)))
      (written : (r.persister.write fs dir d.metadata).attempt.trace.value = .ok ()) :
      Ran r fs dir (ts ++ [.persisting]) (r.persister.write fs dir d.metadata).fileSystem
        (.ok (.completed (d.report dir (r.persister.indexPath dir))))

/-- What has been prepared is persisted or the reason not to. -/
theorem Prepared.exists_ran {us : List Stage} {x : Except Failure (Option Draft)}
    (h : Prepared r fs dir us x) : ∃ ts fs' y, Ran r fs dir ts fs' y := by
  rcases x with e | _ | d
  · exact ⟨_, _, _, .failed h⟩
  · exact ⟨_, _, _, .empty h⟩
  · cases written : (r.persister.write fs dir d.metadata).attempt.trace.value with
    | error e => exact ⟨_, _, _, .unpersisted h written⟩
    | ok => exact ⟨_, _, _, .persisted h written⟩

theorem calls_write (d : Draft) :
    (r.persister.write fs dir d.metadata).attempt.trace.calls = [] :=
  Traced.calls_monadLift _

theorem goes_persist_error {d : Draft} {e : Failure}
    (h : (r.persister.write fs dir d.metadata).attempt.trace.value = .error e) :
    Goes (r.persist fs dir d) [.persisting] [.handedOver dir d.metadata]
      ((r.persister.write fs dir d.metadata).fileSystem, .error e) := by
  refine .of_calls ((Goes.pass _).bind <| (Goes.lift _).bind <| (Goes.lift _).bind
    (by rw [h]; exact .pure _)) ?_
  rw [calls_write]
  rfl

theorem goes_persist_ok {d : Draft}
    (h : (r.persister.write fs dir d.metadata).attempt.trace.value = .ok ()) :
    Goes (r.persist fs dir d) [.persisting] [.handedOver dir d.metadata]
      ((r.persister.write fs dir d.metadata).fileSystem,
        .ok (.completed (d.report dir (r.persister.indexPath dir)))) := by
  refine .of_calls ((Goes.pass _).bind <| (Goes.lift _).bind <| (Goes.lift _).bind
    (by rw [h]; exact (Goes.lift _).bind (.pure _))) ?_
  rw [calls_write]
  rfl

/-- **What `Ran` says** is what the stages of a run before the last do. -/
theorem Ran.goes {ts : List Stage} {fs' : FileSystem} {y : Except Failure Outcome}
    (h : Ran r fs dir ts fs' y) :
    ∃ us x, Prepared r fs dir us x ∧
      Goes (r.body fs dir) ts (r.visits fs dir ++ handings dir x) (fs', y) := by
  cases h with
  | failed prepared =>
      refine ⟨_, _, prepared, ?_⟩
      have hbody : Goes (r.body fs dir) (ts ++ []) (r.visits fs dir ++ []) (fs, .error _) :=
        prepared.goes.bind (.pure _)
      simpa [handings] using hbody
  | empty prepared =>
      refine ⟨_, _, prepared, ?_⟩
      have hbody : Goes (r.body fs dir) (ts ++ []) (r.visits fs dir ++ []) (fs, .ok _) :=
        prepared.goes.bind (.pure _)
      simpa [handings] using hbody
  | unpersisted prepared written =>
      exact ⟨_, _, prepared, prepared.goes.bind (goes_persist_error written)⟩
  | persisted prepared written =>
      exact ⟨_, _, prepared, prepared.goes.bind (goes_persist_ok written)⟩

theorem exists_ran (r : Reindexer) (fs : FileSystem) (dir : Path) :
    ∃ ts fs' y, Ran r fs dir ts fs' y := by
  obtain ⟨us, x, prepared⟩ := exists_prepared r fs dir
  exact prepared.exists_ran

/-- The stage that a run with this result ends in. -/
def finalStage : Except Failure Outcome → Stage
  | .ok _    => .done
  | .error e => .failed e.kind

theorem goes_conclude (dir : Path) :
    ∀ y : Except Failure Outcome, Goes (conclude dir y) [finalStage y] [] ()
  | .ok _    => Goes.pass _
  | .error _ => (Goes.pass _).bind (Goes.lift _)

/-- A run is its stages before the last and then the passage to that of its result. -/
theorem runAfter_of_goes {ts : List Stage} {cs : List Notice} {fs' : FileSystem}
    {y : Except Failure Outcome} (h : Goes (r.body fs dir) ts cs (fs', y)) (before : Stage) :
    (r.runAfter before fs dir).fileSystem = fs' ∧
      (r.runAfter before fs dir).outcome = y ∧
      (r.runAfter before fs dir).progress =
        Progress.through ⟨.idle, []⟩ (ts ++ [finalStage y]) ∧
      (r.runAfter before fs dir).attempt.calls = cs := by
  -- The first step of a run takes the stage back to idle, so `before` does not matter.
  have hrest : Goes (r.body fs dir >>= fun z => conclude dir z.2 >>= fun _ => pure (z.1, z.2))
      (ts ++ ([finalStage y] ++ [])) (cs ++ ([] ++ [])) (fs', y) :=
    h.bind ((goes_conclude dir y).bind (.pure _))
  rw [List.append_nil, List.append_nil, List.append_nil] at hrest
  obtain ⟨hafter, hcalls⟩ := hrest ⟨.idle, []⟩
  have hcourse : (r.course fs dir).after ⟨before, []⟩ =
      ((fs', y), Progress.through ⟨.idle, []⟩ (ts ++ [finalStage y])) := hafter
  have hnotices : ((r.course fs dir).run ⟨before, []⟩).calls = cs := hcalls
  exact ⟨congrArg (·.1.1) hcourse, congrArg (·.1.2) hcourse, congrArg (·.2) hcourse, hnotices⟩

/-- What a run of these stages leaves and comes to, whatever stage earlier runs ended in. -/
theorem Ran.runAfter {ts : List Stage} {fs' : FileSystem} {y : Except Failure Outcome}
    (h : Ran r fs dir ts fs' y) (before : Stage) :
    (r.runAfter before fs dir).fileSystem = fs' ∧ (r.runAfter before fs dir).outcome = y := by
  obtain ⟨us, x, -, goes⟩ := h.goes
  obtain ⟨hfs, hy, -, -⟩ := runAfter_of_goes goes before
  exact ⟨hfs, hy⟩

/-- The calls of a run: it may visit a segment and may then hand on what it has prepared. -/
theorem Prepared.calls_runAfter {us : List Stage} {x : Except Failure (Option Draft)}
    (h : Prepared r fs dir us x) (before : Stage) :
    (r.runAfter before fs dir).attempt.calls = r.visits fs dir ++ handings dir x := by
  obtain ⟨ts, fs', y, ran⟩ := h.exists_ran
  obtain ⟨us', x', prepared, goes⟩ := ran.goes
  obtain ⟨-, -, -, hcalls⟩ := runAfter_of_goes goes before
  rw [hcalls, prepared.unique h]

/-- What is read off the calls of a run. -/
theorem Prepared.filterMap_notices {us : List Stage} {x : Except Failure (Option Draft)}
    {β : Type} {f : Notice → Option β} (h : Prepared r fs dir us x) (before : Stage)
    (hf : ∀ n, n.isCall = false → f n = none) :
    (r.runAfter before fs dir).attempt.notices.filterMap f =
      (r.visits fs dir).filterMap f ++ (handings dir x).filterMap f := by
  rw [← Traced.filterMap_calls hf, h.calls_runAfter before, List.filterMap_append]

/-- **A run** does one of the things that `Ran` lists, beginning anew, and then passes to the stage
of its result. -/
theorem ran_runAfter (r : Reindexer) (before : Stage) (fs : FileSystem) (dir : Path) :
    ∃ ts, Ran r fs dir ts (r.runAfter before fs dir).fileSystem (r.runAfter before fs dir).outcome ∧
      (r.runAfter before fs dir).progress =
        Progress.through ⟨.idle, []⟩ (ts ++ [finalStage (r.runAfter before fs dir).outcome]) := by
  obtain ⟨ts, fs', y, ran⟩ := exists_ran r fs dir
  obtain ⟨us, x, -, goes⟩ := ran.goes
  obtain ⟨hfs, hy, hprogress, -⟩ := runAfter_of_goes goes before
  rw [hfs, hy]
  exact ⟨ts, ran, hprogress⟩

/-- What a run comes to with what it has prepared. -/
def result (r : Reindexer) (fs : FileSystem) (dir : Path) :
    Except Failure (Option Draft) → Except Failure Outcome
  | .error e     => .error e
  | .ok none     => .ok (.noSegments dir)
  | .ok (some d) =>
      (r.persister.write fs dir d.metadata).attempt.trace.value.map fun _ =>
        .completed (d.report dir (r.persister.indexPath dir))

theorem Prepared.outcome_runAfter {us : List Stage} {x : Except Failure (Option Draft)}
    (h : Prepared r fs dir us x) (before : Stage) :
    (r.runAfter before fs dir).outcome = r.result fs dir x := by
  rcases x with e | _ | d
  · exact ((Ran.failed h).runAfter before).2
  · exact ((Ran.empty h).runAfter before).2
  · rw [result]
    cases written : (r.persister.write fs dir d.metadata).attempt.trace.value with
    | error e => exact ((Ran.unpersisted h written).runAfter before).2
    | ok => exact ((Ran.persisted h written).runAfter before).2

theorem Prepared.fileSystem_runAfter {us : List Stage} {d : Draft}
    (h : Prepared r fs dir us (.ok (some d))) (before : Stage) :
    (r.runAfter before fs dir).fileSystem =
      (r.persister.write fs dir d.metadata).fileSystem := by
  cases written : (r.persister.write fs dir d.metadata).attempt.trace.value with
  | error e => exact ((Ran.unpersisted h written).runAfter before).1
  | ok => exact ((Ran.persisted h written).runAfter before).1

/-- What a completed run has prepared and persisted. -/
theorem exists_prepared_of_completed {before : Stage} {report : Report}
    (h : (r.runAfter before fs dir).outcome = .ok (.completed report)) :
    ∃ ts d, Prepared r fs dir ts (.ok (some d)) ∧
      (r.persister.write fs dir d.metadata).attempt.trace.value = .ok () ∧
      (r.runAfter before fs dir).fileSystem =
        (r.persister.write fs dir d.metadata).fileSystem ∧
      report = d.report dir (r.persister.indexPath dir) := by
  obtain ⟨ts, ran, -⟩ := ran_runAfter r before fs dir
  rw [h] at ran
  generalize (r.runAfter before fs dir).fileSystem = fs' at ran ⊢
  cases ran with
  | persisted prepared written => exact ⟨_, _, prepared, written, rfl, rfl⟩

/-- A run that finds no segments has found no segment files. -/
theorem segmentFiles_of_noSegments {before : Stage} {d : Path}
    (h : (r.runAfter before fs dir).outcome = .ok (.noSegments d)) :
    r.segmentFiles fs dir = .ok [] := by
  obtain ⟨ts, ran, -⟩ := ran_runAfter r before fs dir
  rw [h] at ran
  generalize (r.runAfter before fs dir).fileSystem = fs' at ran
  cases ran with
  | empty prepared =>
      cases prepared with
      | empty files => exact files

/-- A run whose steps all succeed is completed. -/
theorem exists_completed {paths : List Path} {first : Segment} {rest : List Segment} {b : Backend}
    {s : Snapshot} (before : Stage) (files : r.segmentFiles fs dir = .ok paths)
    (order : Segment.order paths = .ok (first :: rest))
    (backend : r.registry.backend r.options.storageId = .ok b)
    (snapshot : (recover b fs first.path).trace.value = .ok s)
    (written : ∀ m, (r.persister.write fs dir m).attempt.trace.value = .ok ()) :
    ∃ report, (r.runAfter before fs dir).outcome = .ok (.completed report) :=
  ⟨_, ((Ran.persisted (.drafted files order backend snapshot) (written _)).runAfter before).2⟩

end Reindexer

end RecordingIndex
