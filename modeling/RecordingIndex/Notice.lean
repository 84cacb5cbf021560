import RecordingIndex.Log.Event
import RecordingIndex.Metadata
import RecordingIndex.Reindex.Stage

/-!
# Notice — what a task leaves behind besides its result

A task is traced: with its value comes the list of what happened on the way (`Traced`).  Beside the
events of the log, a trace holds the passages between stages, the opening and closing of segment
handles, and the descriptions handed on to be persisted.  `Attempt` is a traced task that may fail;
what happened before a failure stays in the trace.

What a backend or a persister does of its own shows in the log alone (`Logged`): handles and
descriptions are noted by those who open and hand on.
-/

namespace RecordingIndex

/-- Something that happens during a task. -/
inductive Notice where
  | event (e : Event)
  | passage (previous next : Reindex.Stage)
  | opened (path : Path)
  | closed (path : Path)
  | handedOver (directory : Path) (metadata : Metadata)
  deriving DecidableEq

/-- The event of a notice; a passage between stages is one of its own. -/
def Notice.event? : Notice → Option Event
  | .event e           => some e
  | .passage previous next =>
      some ⟨.debug, .reindex, "Reindex stage transition",
        [("from", .shown previous.text), ("to", .shown next.text)]⟩
  | _                  => none

/-- A value and the events reported before it was there. -/
structure Logged (α : Type) where
  events : List Event
  value  : α

namespace Logged

instance : Monad Logged where
  pure a   := ⟨[], a⟩
  bind t f := ⟨t.events ++ (f t.value).events, (f t.value).value⟩

/-- Reports an event. -/
def report (level : Level) (source : Source) (message : String)
    (fields : List (String × FieldValue)) : Logged Unit :=
  ⟨[⟨level, source, message, fields⟩], ()⟩

end Logged

/-- A value and what happened before it was there. -/
structure Traced (α : Type) where
  notices : List Notice
  value   : α

namespace Traced

instance : Monad Traced where
  pure a   := ⟨[], a⟩
  bind t f := ⟨t.notices ++ (f t.value).notices, (f t.value).value⟩

/-- Events are among what happens. -/
instance : MonadLift Logged Traced where
  monadLift t := ⟨t.events.map .event, t.value⟩

/-- Notes that something happens. -/
def note (n : Notice) : Traced Unit := ⟨[n], ()⟩

/-- Reports an event. -/
def report (level : Level) (source : Source) (message : String)
    (fields : List (String × FieldValue)) : Traced Unit :=
  note (.event ⟨level, source, message, fields⟩)

/-- The events of a trace, in order. -/
def events {α : Type} (t : Traced α) : List Event := t.notices.filterMap Notice.event?

@[simp] theorem notices_pure {α : Type} (a : α) : (pure a : Traced α).notices = [] := rfl

@[simp] theorem notices_bind {α β : Type} (t : Traced α) (f : α → Traced β) :
    (t >>= f).notices = t.notices ++ (f t.value).notices := rfl

@[simp] theorem value_bind {α β : Type} (t : Traced α) (f : α → Traced β) :
    (t >>= f).value = (f t.value).value := rfl

end Traced

/-- A task that may fail and only reports events. -/
abbrev LoggedAttempt := ExceptT Failure Logged

/-- The trace of a task, with its result. -/
def LoggedAttempt.trace {α : Type} (a : LoggedAttempt α) : Traced (Except Failure α) :=
  monadLift a.run

/-- A traced task that may fail. -/
abbrev Attempt := ExceptT Failure Traced

namespace Attempt

/-- The trace of a task, with its result. -/
def trace {α : Type} (a : Attempt α) : Traced (Except Failure α) := a.run

/-- A task that only reports events, as a traced one. -/
def ofLogged {α : Type} (a : LoggedAttempt α) : Attempt α := ExceptT.mk a.trace

/-- The task that a result is. -/
def ofExcept {α : Type} : Except Failure α → Attempt α
  | .ok a    => pure a
  | .error e => throw e

end Attempt

end RecordingIndex
