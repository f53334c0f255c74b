import Multitarget.Proofs.Session.Scratch

/-!
# Agreement of sessions

Sessions agree if they differ in nothing but what was noted beside calls. Actions that
lead from agreeing sessions to agreeing ones and end the same way cannot be told apart by
what they give, call or write; this is kept by running one action after another.
-/

namespace Multitarget

/-- Between two sessions nothing differs but what was noted beside calls. -/
def Session.Agrees (session other : Session) : Prop :=
  ∃ trace, other = { session with trace := trace } ∧
    Trace.calls trace = Trace.calls session.trace

namespace Session.Agrees

variable {session other : Session}

theorem refl (session : Session) : session.Agrees session :=
  ⟨session.trace, rfl, rfl⟩

theorem files_eq (agrees : session.Agrees other) : other.files = session.files := by
  obtain ⟨trace, rfl, _⟩ := agrees
  rfl

theorem calls_eq (agrees : session.Agrees other) :
    Trace.calls other.trace = Trace.calls session.trace := by
  obtain ⟨trace, rfl, same⟩ := agrees
  exact same

theorem note {events others : List Event} (agrees : session.Agrees other)
    (same : Trace.calls others = Trace.calls events) :
    (session.note events).Agrees (other.note others) := by
  obtain ⟨trace, rfl, calls⟩ := agrees
  refine ⟨trace ++ others, rfl, ?_⟩
  simp only [Session.note, Trace.calls_append, calls, same]

end Session.Agrees

namespace Action

variable {α β : Type}

/-- In agreeing sessions two actions end the same way, and in agreeing sessions again. -/
def Agree (action other : Action α) : Prop :=
  ∀ session twin, session.Agrees twin →
    (other twin).1 = (action session).1 ∧ (action session).2.Agrees (other twin).2

theorem Yields.agree {action other : Action α} {ending : Except Fault α}
    {events others : List Event} (yielded : action.Yields ending events)
    (yieldedOther : other.Yields ending others) (same : Trace.calls others = Trace.calls events) :
    action.Agree other := by
  intro session twin agrees
  rw [yielded session, yieldedOther twin]
  exact ⟨rfl, agrees.note same⟩

theorem Makes.agree {action : Action α} {ending : Except Fault α} {called : List Call}
    (made : action.Makes ending called) : action.Agree action := by
  obtain ⟨events, yielded, _⟩ := made
  exact yielded.agree yielded rfl

theorem agree_pure (value : α) : (pure value : Action α).Agree (pure value) :=
  (yields_pure value).agree (yields_pure value) rfl

theorem agree_throw (fault : Fault) : (throw fault : Action α).Agree (throw fault) :=
  (yields_throw fault).agree (yields_throw fault) rfl

theorem agree_emit (event : Event) : (emit event).Agree (emit event) :=
  (yields_emit event).agree (yields_emit event) rfl

theorem agree_log (level : Log.Level) (event : String) (fields : List (String × Json.Document)) :
    (log level event fields).Agree (log level event fields) :=
  agree_emit _

namespace Agree

variable {action other : Action α} {next following : α → Action β}

theorem bind (begun : action.Agree other)
    (continued : ∀ value, (next value).Agree (following value)) :
    (action >>= next).Agree (other >>= following) := by
  intro session twin agrees
  obtain ⟨same, between⟩ := begun session twin agrees
  rcases ran : action session with ⟨ending, after⟩
  rcases ranOther : other twin with ⟨endingOther, afterOther⟩
  rw [ran, ranOther] at same between
  obtain rfl : endingOther = ending := same
  cases endingOther with
  | error fault =>
      rw [bind_of_error ran, bind_of_error ranOther]
      exact ⟨rfl, between⟩
  | ok value =>
      rw [bind_of_ok ran, bind_of_ok ranOther]
      exact continued value after afterOther between

theorem map (change : α → β) (agree : action.Agree other) :
    (change <$> action).Agree (change <$> other) := by
  intro session twin agrees
  obtain ⟨same, between⟩ := agree session twin agrees
  rw [map_run, map_run, same]
  exact ⟨rfl, between⟩

theorem observe (agree : action.Agree other) : (observe action).Agree (observe other) := by
  intro session twin agrees
  obtain ⟨same, between⟩ := agree session twin agrees
  rw [observe_run, observe_run, same]
  exact ⟨rfl, between⟩

theorem andFinally {after : Action Unit} (agree : action.Agree other)
    (finished : after.Agree after) :
    (action.andFinally after).Agree (other.andFinally after) := by
  refine agree.observe.bind fun ending => finished.bind fun _ => ?_
  cases ending with
  | error fault => exact agree_throw fault
  | ok value => exact agree_pure value

end Agree

/-! ## Files and contexts -/

theorem agree_onFiles (action : Location → FileAction α) :
    (onFiles action).Agree (onFiles action) := by
  rintro session _ ⟨trace, rfl, same⟩
  rw [onFiles_run, onFiles_run]
  exact ⟨rfl, trace, rfl, same⟩

theorem agree_prepareDirectory (path : FilePath) :
    (prepareDirectory path).Agree (prepareDirectory path) :=
  (agree_emit _).bind fun _ => agree_onFiles _

theorem agree_storeFile (path : FilePath) (content : Text.Bytes) :
    (storeFile path content).Agree (storeFile path content) :=
  (agree_emit _).bind fun _ => agree_onFiles _

end Action

namespace Scratch

variable {α : Type}

theorem agree_acquire (source : ScratchSource) : (acquire source).Agree (acquire source) := by
  rintro session _ ⟨trace, rfl, same⟩
  unfold acquire
  cases source.refusal with
  | some exception => exact ⟨rfl, trace, rfl, same⟩
  | none =>
      simp only [bind_run, get_run, Action.onFiles_run]
      rcases FileTree.makeDirectory session.working _ session.files with ⟨fault | done, files⟩
      · exact ⟨rfl, trace, rfl, same⟩
      · refine ⟨rfl, trace ++ acquiredEvents session.nextContext, ?_, ?_⟩
        · simp [acquiredEvents, Session.note]
        · simp [same, acquiredEvents, Session.note]

theorem agree_release (scratch : Scratch) : (release scratch).Agree (release scratch) := by
  rintro session _ ⟨trace, rfl, same⟩
  rw [release_run, release_run]
  refine ⟨rfl, trace ++ releasedEvents scratch.id, rfl, ?_⟩
  simp only [Session.note, Trace.calls_append, same]

theorem agree_within (source : ScratchSource) {body : ContextId → Action α}
    (agree : ∀ context, (body context).Agree (body context)) :
    (within source body).Agree (within source body) :=
  (agree_acquire source).bind fun scratch => (agree scratch.id).andFinally (agree_release scratch)

end Scratch

end Multitarget
