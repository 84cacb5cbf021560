import RecordingIndex.Proofs.Registry
import RecordingIndex.Proofs.Reindex.Report

/-!
# Proofs — Reindex — the stages of a run

There are six courses that a run may take (`Course`).  Where the persister fails only to persist,
every run takes one of them, whatever stage earlier runs ended in, and the stages tell its result
(`isStaged_runAfter`).
-/

namespace RecordingIndex

/-- Every failure of the persister is one to persist. -/
def Persister.FailsToPersist (p : Persister) : Prop :=
  ∀ fs dir m e, (p.write fs dir m).attempt.trace.value = .error e → e.kind = .persistFailed

theorem Index.failsToPersist : Index.persister.FailsToPersist := by
  intro fs dir m e h
  rw [persister, value_write] at h
  cases hstore : (store fs dir m).2 with
  | error reason =>
      rw [hstore] at h
      cases h
      rfl
  | ok =>
      rw [hstore] at h
      cases h

namespace Reindex

/-- The stages that a run in `dir` passes through, and what it comes to. -/
inductive Course (dir : Path) : List Stage → Except Failure Outcome → Prop where
  | misdirected {e : Failure} (kind : e.kind = .invalidDirectory) :
      Course dir [.discovering, .failed .invalidDirectory] (.error e)
  | empty : Course dir [.discovering, .done] (.ok (.noSegments dir))
  | unordered {e : Failure} {k : Failure.Kind}
      (order : k = .malformedSegmentName ∨ k = .duplicateSegmentId) (kind : e.kind = k) :
      Course dir [.discovering, .ordering, .failed k] (.error e)
  | unrecovered {e : Failure} {k : Failure.Kind}
      (recovery : k = .backendUnavailable ∨ k = .segmentOpenFailed) (kind : e.kind = k) :
      Course dir [.discovering, .ordering, .recovering, .failed k] (.error e)
  | unpersisted {e : Failure} (kind : e.kind = .persistFailed) :
      Course dir [.discovering, .ordering, .recovering, .reconciling, .finalizing, .persisting,
        .failed .persistFailed] (.error e)
  | complete (report : Report) :
      Course dir [.discovering, .ordering, .recovering, .reconciling, .finalizing, .persisting,
        .done] (.ok (.completed report))

/-- The stages that the passages of a run lead to, in order. -/
def Run.stages (run : Run) : List Stage := run.passages.map Passage.next

/-- A run in `dir` takes a course, each passage from where the one before leads and the first from
idle; its result is told by the stages. -/
structure Run.IsStaged (dir : Path) (run : Run) : Prop where
  linked    : run.passages.map Passage.previous = (.idle :: run.stages).dropLast
  course    : Course dir run.stages run.outcome
  stage     : run.stages.getLast? = some run.stage
  failed    : ∀ k, (∃ e, run.outcome = .error e ∧ e.kind = k) ↔
                run.stages.getLast? = some (.failed k)
  empty     : ∀ d, run.outcome = .ok (.noSegments d) ↔ d = dir ∧ run.stages = [.discovering, .done]
  complete  : (∃ report, run.outcome = .ok (.completed report)) ↔
                [.persisting, .done] <:+ run.stages
  recovered : ⟨.recovering, .done⟩ ∉ run.passages

namespace Course

variable {dir : Path} {ts : List Stage} {x : Except Failure Outcome}

theorem failed_iff (h : Course dir ts x) (k : Failure.Kind) :
    (∃ e, x = .error e ∧ e.kind = k) ↔ ts.getLast? = some (.failed k) := by
  cases h with
  | misdirected kind | unordered _ kind | unrecovered _ kind | unpersisted kind => simp [kind]
  | empty | complete => simp

theorem empty_iff (h : Course dir ts x) (d : Path) :
    x = .ok (.noSegments d) ↔ d = dir ∧ ts = [.discovering, .done] := by
  cases h with
  | empty => simpa using eq_comm
  | misdirected | unordered | unrecovered | unpersisted | complete => simp

theorem complete_iff (h : Course dir ts x) :
    (∃ report, x = .ok (.completed report)) ↔ [.persisting, .done] <:+ ts := by
  cases h <;> simp [List.suffix_cons_iff]

theorem recovered (h : Course dir ts x) : ⟨.recovering, .done⟩ ∉ passagesFrom .idle ts := by
  cases h <;> simp [passagesFrom]

theorem stages_of_persistFailed {e : Failure} (h : Course dir ts (.error e))
    (hkind : e.kind = .persistFailed) :
    ts = [.discovering, .ordering, .recovering, .reconciling, .finalizing, .persisting,
      .failed .persistFailed] := by
  cases h with
  | unpersisted => rfl
  | misdirected kind => cases kind.symm.trans hkind
  | unordered order kind => rcases order with rfl | rfl <;> cases kind.symm.trans hkind
  | unrecovered recovery kind => rcases recovery with rfl | rfl <;> cases kind.symm.trans hkind

end Course

/-! ### Failures of the steps -/

theorem kind_of_listed {fs : FileSystem} {dir : Path} {ext : String} {e : Failure}
    (h : Segment.listed fs dir ext = .error e) : e.kind = .invalidDirectory := by
  rw [Segment.listed] at h
  split at h
  · cases h; rfl
  · split at h
    · cases h; rfl
    · split at h
      · cases h; rfl
      · cases h

theorem kind_of_backend {g : Registry} {id : String} {e : Failure}
    (h : g.backend id = .error e) : e.kind = .backendUnavailable := by
  rw [(Registry.backend_eq_error_iff.mp h).1]
  rfl

theorem kind_asOpenFailure (path : Path) : ∀ e, (asOpenFailure path e).kind = .segmentOpenFailed
  | .segmentOpenFailed _ _ => rfl
  | .io _ | .invalidDirectory _ _ | .malformedSegmentName _ | .duplicateSegmentId _ _ _
  | .backendUnavailable _ | .noSegmentsFound _ | .persistFailed _ _ | .storage _ | .metadata _
  | .config _ => rfl

theorem kind_of_recover {b : Backend} {fs : FileSystem} {path : Path} {e : Failure}
    (h : (recover b fs path).trace.value = .error e) : e.kind = .segmentOpenFailed := by
  rw [value_recover] at h
  split at h
  · cases h
  · cases h
    exact kind_asOpenFailure _ _

end Reindex

namespace Reindexer

open Reindex

variable {r : Reindexer} {fs : FileSystem} {dir : Path}

/-! ### Runs -/

theorem Prepared.course_of_error {ts : List Stage} {e : Failure}
    (h : Prepared r fs dir ts (.error e)) : Course dir (ts ++ [.failed e.kind]) (.error e) := by
  cases h with
  | undiscovered files =>
      have kind := kind_of_listed files
      exact kind ▸ .misdirected kind
  | unordered _ order => exact .unordered (Segment.kind_of_order order) rfl
  | unavailable _ _ backend => exact .unrecovered (.inl (kind_of_backend backend)) rfl
  | unrecovered _ _ _ snapshot => exact .unrecovered (.inr (kind_of_recover snapshot)) rfl

theorem Ran.course {ts : List Stage} {fs' : FileSystem} {x : Except Failure Outcome}
    (hp : r.persister.FailsToPersist) (h : Ran r fs dir ts fs' x) :
    Course dir (ts ++ [finalStage x]) x := by
  cases h with
  | failed prepared => exact prepared.course_of_error
  | empty prepared =>
      cases prepared
      exact .empty
  | unpersisted prepared written =>
      cases prepared
      have kind := hp _ _ _ _ written
      rw [finalStage, kind]
      exact .unpersisted kind
  | persisted prepared written =>
      cases prepared
      exact .complete _

/-- **The stages of a run** form one of the courses, and the last of them tells its result. -/
theorem isStaged_runAfter (r : Reindexer) (before : Stage) (fs : FileSystem) (dir : Path)
    (hp : r.persister.FailsToPersist) : (r.runAfter before fs dir).IsStaged dir := by
  obtain ⟨ts, ran, progress⟩ := ran_runAfter r before fs dir
  generalize r.runAfter before fs dir = run at ran progress ⊢
  -- Passages, stages and the last stage are all determined by `ts` and the outcome.
  have course := ran.course hp
  have hpassages : run.passages = passagesFrom .idle (ts ++ [finalStage run.outcome]) := by
    rw [Run.passages, progress]
    rfl
  have hstages : run.stages = ts ++ [finalStage run.outcome] := by
    rw [Run.stages, hpassages, map_next_passagesFrom]
  have hstage : run.stage = finalStage run.outcome := by
    rw [Run.stage, progress]
    simp [Progress.through]
  rw [← hstages] at course hpassages
  exact {
    linked    := by rw [hpassages, map_previous_passagesFrom]
    course    := course
    stage     := by rw [hstages, hstage, List.getLast?_concat]
    failed    := course.failed_iff
    empty     := course.empty_iff
    complete  := course.complete_iff
    recovered := hpassages ▸ course.recovered }

namespace Sample

/-- The recording of two segments is prepared, but its description finds no room. -/
def crowded : Reindexer :=
  { reindexer with
    persister := ⟨Index.path, fun fs dir _ =>
      ⟨fs, throw (.persistFailed (Index.path dir) "disk full")⟩⟩ }

theorem failsToPersist_crowded : crowded.persister.FailsToPersist := by
  intro fs dir m e h
  cases h
  rfl

theorem outcome_crowded (before : Stage) :
    (crowded.runAfter before fileSystem (.ofString "/r")).outcome =
      .error (.persistFailed (Index.path (.ofString "/r")) "disk full") :=
  ((Ran.unpersisted (.drafted rfl order rfl rfl) rfl).runAfter before).2

end Sample

theorem isStaged_runAfter_crowded :
    Sample.crowded.persister.FailsToPersist ∧
      (Sample.crowded.runAfter (.failed .storage) Sample.fileSystem
        (.ofString "/r")).IsStaged (.ofString "/r") ∧
      (Sample.crowded.runAfter (.failed .storage) Sample.fileSystem (.ofString "/r")).stages =
        [.discovering, .ordering, .recovering, .reconciling, .finalizing, .persisting,
          .failed .persistFailed] := by
  have hstaged := isStaged_runAfter Sample.crowded (.failed .storage) Sample.fileSystem
    (.ofString "/r") Sample.failsToPersist_crowded
  have hcourse := hstaged.course
  rw [Sample.outcome_crowded] at hcourse
  exact ⟨Sample.failsToPersist_crowded, hstaged, hcourse.stages_of_persistFailed rfl⟩

/-- The root holds no segments. -/
example :
    (runAfter ⟨.empty, Index.persister, .standard⟩ (.failed .storage) .empty
      (.ofString "/")).stages = [.discovering, .done] := by
  rfl

end Reindexer

end RecordingIndex
