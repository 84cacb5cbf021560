import RecordingIndex.Proofs.Reindex.Calls
import RecordingIndex.Reindex.Progress

/-!
# Proofs — Reindex — the progress of a run

Passing through stages one after the other makes a chain of passages (`passagesFrom`), each from the
stage that the one before leads to.  A task *goes* through stages to a value (`Goes`) when it passes
through these and no others, from wherever it begins, and it is told on the way which calls it
makes; `Goes.bind` is the composition, and a task that fails goes no further (`Goes.fails`).
-/

namespace RecordingIndex.Reindex

/-- The passages from a stage through others, one after the other. -/
def passagesFrom : Stage → List Stage → List Passage
  | _, []      => []
  | s, t :: ts => ⟨s, t⟩ :: passagesFrom t ts

theorem passagesFrom_append (s : Stage) (us : List Stage) :
    ∀ ts, passagesFrom s (ts ++ us) = passagesFrom s ts ++ passagesFrom (ts.getLast?.getD s) us
  | []      => rfl
  | t :: ts => by
      simp [passagesFrom, passagesFrom_append t us ts, List.getLast?_cons]

theorem map_next_passagesFrom : ∀ (s : Stage) (ts : List Stage),
    (passagesFrom s ts).map Passage.next = ts
  | _, []      => rfl
  | _, t :: ts => by simp [passagesFrom, map_next_passagesFrom t ts]

theorem map_previous_passagesFrom : ∀ (s : Stage) (ts : List Stage),
    (passagesFrom s ts).map Passage.previous = (s :: ts).dropLast
  | _, []      => rfl
  | _, t :: ts => by simp [passagesFrom, map_previous_passagesFrom t ts]

/-- The progress once more stages are passed through. -/
def Progress.through (p : Progress) (ts : List Stage) : Progress :=
  ⟨ts.getLast?.getD p.stage, p.passages ++ passagesFrom p.stage ts⟩

theorem Progress.through_append (p : Progress) (ts us : List Stage) :
    p.through (ts ++ us) = (p.through ts).through us := by
  simp only [through, passagesFrom_append, List.append_assoc, List.getLast?_append,
    Progress.mk.injEq, and_true]
  cases us.getLast? <;> rfl

@[simp] theorem Progress.through_nil (p : Progress) : p.through [] = p := by
  simp [through, passagesFrom]

/-! ### Staged tasks -/

/-- What a task gives and the progress it leaves. -/
def Staged.after {α : Type} (t : Staged α) (p : Progress) : α × Progress := (t.run p).value

/-- The task passes through the stages, makes the calls and gives `a`. -/
def Goes {α : Type} (t : Staged α) (ts : List Stage) (cs : List Notice) (a : α) : Prop :=
  ∀ p, t.after p = (a, p.through ts) ∧ (t.run p).calls = cs

namespace Goes

variable {α β : Type} {ts us : List Stage} {cs ds : List Notice} {a : α} {b : β} {e : Failure}

theorem pure (a : α) : Goes (Pure.pure a) [] [] a := by
  intro p
  rw [Progress.through_nil]
  exact ⟨rfl, rfl⟩

theorem lift (t : Traced α) : Goes (liftM t) [] t.calls t.value := by
  intro p
  rw [Progress.through_nil]
  have hrun : (liftM t : Staged α).run p = (fun a => (a, p)) <$> t := rfl
  exact ⟨rfl, by rw [hrun, Traced.calls_map]⟩

theorem pass (s : Stage) : Goes (Staged.pass s) [s] [] () := fun _ => ⟨rfl, rfl⟩

theorem bind {t : Staged α} {f : α → Staged β} (h : Goes t ts cs a) (hf : Goes (f a) us ds b) :
    Goes (t >>= f) (ts ++ us) (cs ++ ds) b := by
  intro p
  have hbind : (t >>= f).after p = (f (t.after p).1).after (t.after p).2 := rfl
  have hcalls : ((t >>= f).run p).calls =
      (t.run p).calls ++ ((f (t.after p).1).run (t.after p).2).calls := by
    rw [StateT.run_bind, Traced.calls_bind]
    rfl
  rw [hbind, hcalls, (h p).1, (h p).2, (hf _).1, (hf _).2, Progress.through_append]
  exact ⟨rfl, rfl⟩

theorem of_calls {t : Staged α} (h : Goes t ts cs a) (hcs : cs = ds) : Goes t ts ds a := hcs ▸ h

/-! ### Tasks that may fail -/

theorem ok (a : α) : Goes (Pure.pure a : StagedAttempt α).run [] [] (.ok a) := pure _

theorem attempt {t : Attempt α} {x : Except Failure α} (h : t.trace.value = x) :
    Goes (StagedAttempt.ofAttempt t).run [] t.trace.calls x :=
  h ▸ lift _

theorem lifted (t : Traced α) : Goes (liftM t : StagedAttempt α).run [] t.calls (.ok t.value) := by
  intro p
  rw [Progress.through_nil]
  have hrun : (liftM t : StagedAttempt α).run.run p = (fun a => (.ok a, p)) <$> t := by
    show ((Except.ok <$> (liftM t : Staged α)) : Staged (Except Failure α)).run p = _
    rw [StateT.run_map]
    simp
  exact ⟨rfl, by rw [hrun, Traced.calls_map]⟩

theorem passed (s : Stage) :
    Goes (liftM (Staged.pass s) : StagedAttempt Unit).run [s] [] (.ok ()) :=
  fun _ => ⟨rfl, rfl⟩

theorem andThen {t : StagedAttempt α} {f : α → StagedAttempt β} {r : Except Failure β}
    (h : Goes t.run ts cs (.ok a)) (hf : Goes (f a).run us ds r) :
    Goes (t >>= f).run (ts ++ us) (cs ++ ds) r :=
  h.bind hf

theorem fails {t : StagedAttempt α} {f : α → StagedAttempt β} (h : Goes t.run ts cs (.error e)) :
    Goes (t >>= f).run ts cs (.error e) := by
  have hrun : (t >>= f).run = t.run >>= ExceptT.bindCont f := rfl
  rw [hrun]
  simpa using h.bind (f := ExceptT.bindCont f) (pure (Except.error e))

/-- A task goes past what it does only on a condition. -/
theorem past {c : Prop} [Decidable c] {t s : StagedAttempt α} {r : Except Failure α} (hc : ¬c)
    (h : Goes s.run ts cs r) : Goes (if c then t else s).run ts cs r := by
  rwa [if_neg hc]

end Goes

end RecordingIndex.Reindex
