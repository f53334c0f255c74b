import Multitarget.Command.Operation
import Multitarget.Proofs.Executor.Course
import Multitarget.Proofs.Executor.Wiring

/-!
# What commands do before they write

Loading a project, putting an executor together and serving a request write nothing to the
console. So what a command writes is what it writes of the response to its request.
-/

namespace Multitarget

/-! ## Running attempts -/

namespace Attempt

variable {α β : Type} {first : Attempt α} {next : α → Attempt β} {session after : Session}

theorem bind_of_ok {value : α} (ran : first session = (.ok (.ok value), after)) :
    (first >>= next) session = next value after := by
  have continued : (ExceptT.run first >>= ExceptT.bindCont next) session = next value after :=
    Multitarget.bind_of_ok ran
  exact continued

theorem bind_of_refusal {refusal : Refusal}
    (ran : first session = (.ok (.error refusal), after)) :
    (first >>= next) session = (.ok (.error refusal), after) := by
  have continued : (ExceptT.run first >>= ExceptT.bindCont next) session =
      (.ok (.error refusal), after) :=
    Multitarget.bind_of_ok ran
  exact continued

theorem bind_of_fault {fault : Fault} (ran : first session = (.error fault, after)) :
    (first >>= next) session = (.error fault, after) := by
  have continued : (ExceptT.run first >>= ExceptT.bindCont next) session = (.error fault, after) :=
    Multitarget.bind_of_error ran
  exact continued

/-- An attempt that comes to a value passes through a value of its first part. -/
theorem bind_eq_ok {result : β} (ran : (first >>= next) session = (.ok (.ok result), after)) :
    ∃ value between, first session = (.ok (.ok value), between) ∧
      next value between = (.ok (.ok result), after) := by
  rcases begun : first session with ⟨fault | refusal | value, between⟩
  · rw [bind_of_fault begun] at ran
    cases ran
  · rw [bind_of_refusal begun] at ran
    cases ran
  · exact ⟨value, between, rfl, (bind_of_ok begun).symm.trans ran⟩

/-- An action that is attempted ends as it does by itself, and is never refused. -/
theorem lift_run (action : Action α) (session : Session) :
    (liftM action : Attempt α) session = ((action session).1.map .ok, (action session).2) := by
  have lifted : (Except.ok <$> action : Action (Except Refusal α)) session =
      ((action session).1.map .ok, (action session).2) :=
    map_run Except.ok action session
  exact lifted

theorem lift_of_ok {action : Action α} {value : α} (ran : action session = (.ok value, after)) :
    (liftM action : Attempt α) session = (.ok (.ok value), after) := by
  rw [lift_run, ran]
  rfl

theorem lift_of_error {action : Action α} {fault : Fault}
    (ran : action session = (.error fault, after)) :
    (liftM action : Attempt α) session = (.error fault, after) := by
  rw [lift_run, ran]
  rfl

/-- How an action ends whose faults are explained, where they can be. -/
def explained (explain : Fault → Option Refusal) :
    Except Fault α → Except Fault (Except Refusal α)
  | .ok value => .ok (.ok value)
  | .error fault =>
      match explain fault with
      | some refusal => .ok (.error refusal)
      | none => .error fault

theorem explaining_run (explain : Fault → Option Refusal) (action : Action α)
    (session : Session) :
    explaining explain action session =
      (explained explain (action session).1, (action session).2) := by
  have observed := lift_of_ok (Action.observe_run action session)
  rw [explaining, bind_of_ok observed]
  cases (action session).1 with
  | ok value => rfl
  | error fault =>
      simp only [explained]
      cases explain fault <;> rfl

section Explained

variable {explain : Fault → Option Refusal} {ending : Except Fault α} {value : α}
  {refusal : Refusal} {fault : Fault}

theorem explained_eq_refused_iff :
    explained explain ending = .ok (.error refusal) ↔
      ∃ fault, ending = .error fault ∧ explain fault = some refusal := by
  cases ending with
  | ok value => simp [explained]
  | error fault =>
      rw [explained]
      split <;> simp_all

theorem explained_eq_error_iff :
    explained explain ending = .error fault ↔ ending = .error fault ∧ explain fault = none := by
  cases ending with
  | ok value => simp [explained]
  | error other =>
      rw [explained]
      split
      next refusal refused =>
        constructor
        · nofun
        · rintro ⟨⟨⟩, unexplained⟩
          rw [unexplained] at refused
          cases refused
      next unexplained =>
        constructor
        · rintro ⟨⟩
          exact ⟨rfl, unexplained⟩
        · rintro ⟨⟨⟩, _⟩
          rfl

end Explained

end Attempt

/-! ## Writing nothing -/

namespace Action

/-- An action writes nothing to the console. -/
def IsSilent {α : Type} (action : Action α) : Prop :=
  ∀ session, Trace.printed (action session).2.trace = Trace.printed session.trace

variable {α β : Type}

theorem silent_pure (value : α) : IsSilent (pure value : Action α) :=
  fun _ => rfl

theorem silent_throw (fault : Fault) : IsSilent (throw fault : Action α) :=
  fun _ => rfl

theorem silent_emit {event : Event} (unwritten : ∀ text, event ≠ .printed text) :
    IsSilent (emit event) := by
  intro session
  rw [emit_run, Session.note, Trace.printed, Trace.printed, List.filterMap_append]
  cases event with
  | printed text => exact absurd rfl (unwritten text)
  | _ => exact List.append_nil _

theorem silent_log (level : Log.Level) (event : String)
    (fields : List (String × Json.Document)) : IsSilent (log level event fields) :=
  silent_emit nofun

theorem silent_onFiles (action : Location → FileAction α) : IsSilent (onFiles action) := by
  intro session
  rw [onFiles_run]

theorem IsSilent.bind {action : Action α} {next : α → Action β} (first : action.IsSilent)
    (second : ∀ value, (next value).IsSilent) : (action >>= next).IsSilent := by
  intro session
  have begun := first session
  rcases ran : action session with ⟨fault | value, after⟩
  · rw [bind_of_error ran]
    rwa [ran] at begun
  · rw [bind_of_ok ran, second value after]
    rwa [ran] at begun

/-- What is refused on a condition is silent if the rest is. -/
theorem silent_unless {condition : Prop} [Decidable condition] (fault : Fault)
    {rest : PUnit → Action α} (silent : (rest ⟨⟩).IsSilent) :
    IsSilent (if condition then throw fault >>= rest else rest ⟨⟩) := by
  split
  · intro session
    rw [bind_of_error (throw_run fault session)]
  · exact silent

theorem IsSilent.map {action : Action α} (silent : action.IsSilent) (change : α → β) :
    (change <$> action).IsSilent := by
  intro session
  rw [map_run]
  exact silent session

theorem IsSilent.observe {action : Action α} (silent : action.IsSilent) :
    (observe action).IsSilent :=
  silent

/-- What makes calls and notes records writes nothing. -/
theorem Makes.silent {action : Action α} {ending : Except Fault α} {called : List Call}
    (made : action.Makes ending called) : action.IsSilent := by
  obtain ⟨events, yielded, inner⟩ := made
  intro session
  have unwritten : Trace.printed events = [] := by
    apply inner.filterMap_eq_nil
    intro event kind
    cases event <;> simp_all [Event.isCall, Event.isRecord]
  rw [yielded session, Session.note, Trace.printed, List.filterMap_append]
  exact (congrArg _ unwritten).trans (List.append_nil _)

theorem silent_failLogged (failure : Failure) : IsSilent (failLogged failure : Action α) :=
  (makes_failLogged failure).silent

end Action

namespace Attempt

variable {α β : Type}

/-- An attempt writes nothing to the console. -/
def IsSilent (attempt : Attempt α) : Prop :=
  Action.IsSilent attempt.run

theorem silent_throw (refusal : Refusal) : IsSilent (throw refusal : Attempt α) :=
  fun _ => rfl

theorem silent_pure (value : α) : IsSilent (pure value : Attempt α) :=
  fun _ => rfl

theorem IsSilent.bind {first : Attempt α} {next : α → Attempt β} (silent : first.IsSilent)
    (continued : ∀ value, (next value).IsSilent) : (first >>= next).IsSilent := by
  have both : Action.IsSilent (first.run >>= ExceptT.bindCont next) := by
    apply Action.IsSilent.bind silent
    rintro (refusal | value)
    · exact Action.silent_pure _
    · exact continued value
  exact both

theorem silent_lift {action : Action α} (silent : action.IsSilent) :
    IsSilent (liftM action : Attempt α) :=
  silent.map Except.ok

theorem silent_explaining {action : Action α} (explain : Fault → Option Refusal)
    (silent : action.IsSilent) : (explaining explain action).IsSilent := by
  intro session
  have ran := explaining_run explain action session
  have same := silent session
  rw [← same]
  exact congrArg (fun ran => Trace.printed ran.2.trace) ran

end Attempt

/-! ## Loading -/

namespace Loading

open Action

theorem readYaml_silent (path : FilePath) : (readYaml path).IsSilent := by
  apply IsSilent.bind (silent_onFiles _)
  intro content
  split
  · exact silent_pure _
  · exact silent_throw _
  · exact silent_throw _

theorem readJson_silent (path : FilePath) : (readJson path).IsSilent := by
  apply IsSilent.bind
  · apply IsSilent.bind (silent_onFiles _)
    intro content
    split
    · exact silent_pure _
    · exact silent_throw _
  · intro text
    split
    · exact silent_pure _
    · exact silent_throw _

theorem accept_silent {α : Type} (checked : Schema.Checked α) : (accept checked).IsSilent := by
  cases checked with
  | valid value => exact silent_pure value
  | invalid issues => exact silent_throw _

theorem project_silent (path : FilePath) : (project path).IsSilent := by
  apply IsSilent.bind (silent_onFiles _)
  intro present
  apply silent_unless
  dsimp only
  split
  · exact (readJson_silent path).bind fun value => accept_silent _
  · exact (readYaml_silent path).bind fun value => accept_silent _

theorem configuration_silent (path : FilePath) : (configuration path).IsSilent := by
  apply IsSilent.bind (silent_onFiles _)
  intro present
  apply silent_unless
  apply IsSilent.bind (readYaml_silent path).observe
  intro loaded
  dsimp only
  split
  · apply (silent_pure _).bind
    intro value
    split
    · exact silent_pure _
    · exact silent_throw _
    · exact silent_failLogged _
  · exact (makes_throw _).bind_error.silent
  · exact (makes_failLogged _).bind_error.silent
  · exact (makes_throw _).bind_error.silent

theorem searchConfiguration_silent (directories : List FilePath) :
    (searchConfiguration directories).IsSilent := by
  induction directories with
  | nil => exact silent_pure _
  | cons directory rest ih =>
      apply IsSilent.bind (silent_onFiles _)
      intro present
      split
      · exact (silent_log _ _ _).bind fun _ => silent_pure _
      · exact ih

theorem findConfiguration_silent (setting : Option String) (directories : List FilePath) :
    (findConfiguration setting directories).IsSilent := by
  unfold findConfiguration
  split
  · exact silent_pure _
  · exact searchConfiguration_silent _

theorem configurationOf_silent (setting path : Option String) :
    (configurationOf setting path).IsSilent := by
  cases path with
  | some path => exact configuration_silent (FilePath.ofText path)
  | none =>
      apply (findConfiguration_silent setting []).bind
      intro found
      cases found with
      | none => exact silent_throw _
      | some file => exact configuration_silent file

end Loading

open Action in
theorem VersionState.set_silent (version : Version) : (set version).IsSilent := by
  apply IsSilent.bind (fun _ => rfl)
  intro session
  split
  · apply (silent_log _ _ _).bind
    intro _
    exact IsSilent.bind (fun _ => rfl) fun _ => silent_pure _
  · split
    · exact silent_pure _
    · exact silent_failLogged _

open Action in
theorem Wired.build_silent (registry : Registry) (configuration : Configuration)
    (setUpLog : Bool) : (build registry configuration setUpLog).IsSilent := by
  rw [build_eq]
  have assembled (version : Version) : IsSilent (makeEnvironment registry configuration >>=
      fun environment => assemble registry configuration version environment) :=
    (makeEnvironment_makes registry configuration).silent.bind fun environment =>
      (assemble_makes registry configuration version environment).silent
  have wired := (VersionState.set_silent configuration.version).bind assembled
  cases setUpLog with
  | false => exact wired
  | true =>
      apply IsSilent.bind _ fun _ => wired
      exact silent_emit fun text written => by cases written

namespace Operation

theorem loadProject_silent (path : String) : (loadProject path).IsSilent := by
  apply Attempt.IsSilent.bind (Attempt.silent_lift (Action.silent_onFiles _))
  intro present
  have loaded := Attempt.silent_explaining (Refusal.ofProject path)
    (Loading.project_silent (FilePath.ofText path))
  dsimp only
  split
  · exact (Attempt.silent_throw _).bind fun _ => loaded
  · exact loaded

theorem loadExecutor_silent (surroundings : Surroundings) (path : Option String) :
    (loadExecutor surroundings path).IsSilent := by
  apply Attempt.silent_explaining
  apply Action.IsSilent.bind (Loading.configurationOf_silent _ _)
  intro configuration
  apply Action.IsSilent.bind (Wired.build_silent _ _ _)
  intro wired
  exact Action.silent_pure _

variable {surroundings : Surroundings} {arguments : Arguments} {project : Project}
  {executor : Executor} {session after : Session}

/-- Loading a project and putting an executor together writes nothing. -/
theorem load_silent (surroundings : Surroundings) (arguments : Arguments) :
    (load surroundings arguments).IsSilent := by
  apply (loadProject_silent arguments.project).bind
  intro project
  apply (loadExecutor_silent surroundings arguments.config).bind
  intro executor
  exact Attempt.silent_pure _

end Operation

/-! ## Requests -/

theorem Session.Serves.printed {called : List Call} {reported : List Event}
    {before after : Session} (serves : before.Serves called reported after) :
    Trace.printed after.trace = Trace.printed before.trace := by
  have ofOuter {reported events : List Event} (outer : Trace.Outer reported events) :
      Trace.printed events = [] := by
    apply outer.filterMap_eq_nil
    intro event kind
    cases event <;> simp_all [Event.isTelemetry, Event.isWriting, Event.isRecord]
  have ofInner {called : List Call} {events : List Event} (inner : Trace.Inner called events) :
      Trace.printed events = [] := by
    apply inner.filterMap_eq_nil
    intro event kind
    cases event <;> simp_all [Event.isCall, Event.isRecord]
  cases serves with
  | idle _ leaves =>
      obtain ⟨events, outer, noted, _⟩ := leaves
      rw [noted, Trace.printed, List.filterMap_append]
      exact (congrArg _ (ofOuter outer)).trans (List.append_nil _)
  | @inContext inner later made outer noted _ =>
      have none : Trace.printed (Scratch.acquiredEvents before.nextContext ++ inner ++
          Scratch.releasedEvents before.nextContext ++ later) = [] := by
        have inside := ofInner made
        have behind := ofOuter outer
        rw [Trace.printed] at inside behind ⊢
        simp only [List.filterMap_append, inside, behind]
        rfl
      rw [noted, Trace.printed, List.filterMap_append]
      exact (congrArg _ none).trans (List.append_nil _)

/-- Serving a request writes nothing to the console. -/
theorem Request.perform_silent (executor : Executor) (project : Project) (request : Request) :
    (request.perform executor project).IsSilent :=
  fun session => (perform_serves executor project session request).printed

end Multitarget
