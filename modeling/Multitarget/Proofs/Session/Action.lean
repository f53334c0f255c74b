import Multitarget.Proofs.Steps
import Multitarget.Session.Basic

/-!
# Running actions

An action run from a session ends in a value or a fault, in a session that has
seen its events. Steady actions end the same way wherever they are run and only
note events.
-/

namespace Multitarget

namespace Session

/-- The session after some more events. -/
def note (session : Session) (events : List Event) : Session :=
  { session with trace := session.trace ++ events }

variable (session : Session) (events later : List Event)

@[simp] theorem files_note : (session.note events).files = session.files := rfl

@[simp] theorem working_note : (session.note events).working = session.working := rfl

@[simp] theorem note_nil : session.note [] = session := by simp [note]

@[simp] theorem note_note : (session.note events).note later = session.note (events ++ later) := by
  simp [note]

/-- Between two sessions events were noted and contexts used, and nothing else changed. -/
def Passes (before after : Session) : Prop :=
  ∃ events contexts, after = { before.note events with nextContext := contexts }

namespace Passes

variable {before between after : Session}

theorem refl (session : Session) : session.Passes session :=
  ⟨[], session.nextContext, by simp [note]⟩

theorem trans (former : before.Passes between) (latter : between.Passes after) :
    before.Passes after := by
  obtain ⟨events, contexts, rfl⟩ := former
  obtain ⟨more, others, rfl⟩ := latter
  exact ⟨events ++ more, others, by simp [note]⟩

theorem note (passes : before.Passes after) (events : List Event) :
    before.Passes (after.note events) :=
  passes.trans ⟨events, after.nextContext, rfl⟩

theorem files_eq (passes : before.Passes after) : after.files = before.files := by
  obtain ⟨events, contexts, rfl⟩ := passes
  rfl

theorem working_eq (passes : before.Passes after) : after.working = before.working := by
  obtain ⟨events, contexts, rfl⟩ := passes
  rfl

end Passes

end Session

namespace Action

variable {α β : Type}

@[simp] theorem emit_run (event : Event) (session : Session) :
    emit event session = (.ok (), session.note [event]) := rfl

@[simp] theorem log_run (level : Log.Level) (event : String)
    (fields : List (String × Json.Document)) (session : Session) :
    log level event fields session =
      (.ok (), session.note [.logged ⟨level, event, fields⟩]) := rfl

@[simp] theorem logAll_run (records : List Log.Record) (session : Session) :
    logAll records session = (.ok (), session.note (records.map .logged)) := by
  induction records generalizing session with
  | nil => simp [logAll]
  | cons record rest ih => simp [logAll, bind_run, ih]

@[simp] theorem observe_run (action : Action α) (session : Session) :
    observe action session = (.ok (action session).1, (action session).2) := rfl

@[simp] theorem resume_run (ending : Except Fault α) (session : Session) :
    resume ending session = (ending, session) := by
  cases ending <;> rfl

/-- What comes after an action does not change how it ended, as long as it succeeds. -/
theorem andFinally_run {action : Action α} {after : Action Unit} {session final : Session}
    (ran : after (action session).2 = (.ok (), final)) :
    action.andFinally after session = ((action session).1, final) := by
  unfold andFinally
  rw [bind_of_ok (observe_run action session), bind_of_ok ran, resume_run]

/-! ## Files -/

@[simp] theorem onFiles_run (action : Location → FileAction α) (session : Session) :
    onFiles action session =
      ((action session.working session.files).1.mapError .file,
        { session with files := (action session.working session.files).2 }) := by
  simp only [onFiles]
  rcases action session.working session.files with ⟨fault | value, files⟩ <;> rfl

theorem prepareDirectory_run (path : FilePath) (session : Session) :
    prepareDirectory path session =
      ((FileTree.ensureDirectories session.working path session.files).1.mapError .file,
        { session.note [.prepared path] with
          files := (FileTree.ensureDirectories session.working path session.files).2 }) := by
  simp [prepareDirectory, bind_run]

theorem storeFile_run (path : FilePath) (content : Text.Bytes) (session : Session) :
    storeFile path content session =
      ((FileTree.writeFile session.working path content session.files).1.mapError .file,
        { session.note [.stored path] with
          files := (FileTree.writeFile session.working path content session.files).2 }) := by
  simp [storeFile, bind_run]

/-! ## Steady actions -/

/-- An action ends the same way in every session, and only notes some events. -/
def Yields (action : Action α) (ending : Except Fault α) (events : List Event) : Prop :=
  ∀ session, action session = (ending, session.note events)

theorem yields_pure (value : α) : (pure value : Action α).Yields (.ok value) [] :=
  fun session => by simp

theorem yields_throw (fault : Fault) : (throw fault : Action α).Yields (.error fault) [] :=
  fun session => by simp

theorem yields_emit (event : Event) : (emit event).Yields (.ok ()) [event] :=
  fun _ => rfl

theorem yields_log (level : Log.Level) (event : String)
    (fields : List (String × Json.Document)) :
    (log level event fields).Yields (.ok ()) [.logged ⟨level, event, fields⟩] :=
  fun _ => rfl

theorem yields_logAll (records : List Log.Record) :
    (logAll records).Yields (.ok ()) (records.map .logged) :=
  logAll_run records

namespace Yields

variable {action : Action α} {next : α → Action β} {value : α} {fault : Fault}
  {ending : Except Fault α} {later : Except Fault β} {events more : List Event}

theorem of_eq {other : Action α} (yielded : action.Yields ending events)
    (same : other = action) : other.Yields ending events :=
  same ▸ yielded

theorem bind_ok (first : action.Yields (.ok value) events)
    (second : (next value).Yields later more) :
    (action >>= next).Yields later (events ++ more) := by
  intro session
  rw [bind_of_ok (first session), second, Session.note_note]

theorem bind_error (first : action.Yields (.error fault) events) :
    (action >>= next).Yields (.error fault) events :=
  fun session => bind_of_error (first session)

theorem map (change : α → β) (yielded : action.Yields ending events) :
    (change <$> action).Yields (ending.map change) events := by
  intro session
  rw [map_run, yielded session]

theorem observe (yielded : action.Yields ending events) :
    (observe action).Yields (.ok ending) events := by
  intro session
  rw [observe_run, yielded session]

end Yields

end Action

end Multitarget
