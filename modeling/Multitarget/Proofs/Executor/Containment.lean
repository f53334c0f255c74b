import Multitarget.Proofs.Executor.Persistence
import Multitarget.Proofs.Executor.Scope

/-!
# Exceptions of backends

What becomes of an exception that a backend raises at a call. A translator describes it in a
result, every other primary operation passes it on, and a request to stop gets through
whatever was asked for. The context of the call is released and no file is changed, however
the request ends.
-/

namespace Multitarget

/-- Whether backends answer a call this way. -/
def Backends.Answers (backends : Backends) (answer : Answer Reply) : Call → Prop
  | .run files addByteCode arguments =>
      backends.run.map (fun call => call files addByteCode arguments) = .ready answer
  | .test files addByteCode =>
      backends.test.map (fun call => call files addByteCode) = .ready answer
  | .compile files addClasspath =>
      backends.compile.map (fun call => call files addClasspath) = .ready answer
  | .translateJs files arguments =>
      backends.translateJs.map (fun call => call files arguments) = .ready answer
  | .translateWasm files arguments variant debugInfo =>
      backends.translateWasm.map (fun call => call files arguments variant debugInfo) =
        .ready answer
  | .complete file line column target context =>
      backends.complete.map (fun call => call file line column target context) = .ready answer

/-- Whether a request makes a call at which its backend raises an exception. -/
def Request.Raises (executor : Executor) (project : Project) (session : Session)
    (exception : Exception) (request : Request) : Prop :=
  ∃ call ∈ executor.callsOf session (request.call? project session.nextContext),
    executor.backends.Answers (.error exception) call

/-! ## Contexts and files -/

/-- A request that makes a call opens one context and releases it. -/
theorem Session.Serves.contexts {called : List Call} {reported : List Event}
    {before after : Session} (serves : before.Serves called reported after)
    (makes : called ≠ []) :
    Trace.opened after.trace = Trace.opened before.trace ++ [before.nextContext] ∧
      Trace.released after.trace = Trace.released before.trace ++ [before.nextContext] := by
  cases serves with
  | idle uncalled _ => exact absurd uncalled makes
  | inContext made outer noted _ =>
      rw [noted]
      simp only [Trace.opened_append, Trace.released_append, made.opened, outer.opened,
        made.released, outer.released]
      exact ⟨rfl, rfl⟩

namespace Primary

variable (operation : Primary) (executor : Executor) (project : Project) {session : Session}

theorem shaped_passes (wellFormed : session.files.WellFormed) :
    session.Passes (operation.shaped executor project session).2 := by
  by_cases routed : project.target.family = operation.family
  · by_cases noFiles : project.files = []
    · obtain ⟨events, yielded, _⟩ := shaped_vacant executor routed noFiles
      rw [yielded session]
      exact (Session.Passes.refl session).note events
    · obtain ⟨offered, offers⟩ := operation.exists_offers executor.backends routed
        (SourceHandle.ofProject session.nextContext project)
      rcases shaped_run executor noFiles routed offers with
        ⟨fault, _, failed⟩ | ⟨_, after, ran, uses⟩
      · rw [failed]
        exact .refl session
      · rw [ran]
        exact uses.passes wellFormed
  · obtain ⟨events, yielded, _⟩ := shaped_elsewhere executor routed
    rw [yielded session]
    exact (Session.Passes.refl session).note events

/-- An operation leaves all files as they were. -/
theorem perform_passes (wellFormed : session.files.WellFormed) :
    session.Passes (operation.perform executor project session).2 := by
  have passes := operation.shaped_passes executor project wellFormed
  rcases shaped : operation.shaped executor project session with ⟨fault | outcome, between⟩
  · rw [shaped] at passes
    rwa [perform_of_shaped_error executor shaped]
  · rw [shaped] at passes
    obtain ⟨events, _, taken | ⟨fault, _, raised⟩⟩ := perform_of_shaped_ok executor shaped
    · rw [taken]
      exact passes.note events
    · rw [raised]
      exact passes.note events

end Primary

namespace Executor

variable {α : Type} (executor : Executor) (project : Project) {session : Session}

/-- What stands in for a result that failed is given for faults that can be contained. -/
theorem orElseLogged_run (action : Action α) (answer : α) (event : String)
    (fields : List (String × Json.Document)) (session : Session) :
    orElseLogged action answer event fields session =
      match action session with
      | (.ok value, after) => (.ok value, after)
      | (.error fault, after) =>
          if fault.isContained then
            (.ok answer, after.note [.logged ⟨.warning, event, fields⟩])
          else (.error fault, after) := by
  unfold orElseLogged
  rw [bind_of_ok (Action.observe_run action session)]
  rcases action session with ⟨fault | value, after⟩
  · by_cases contained : fault.isContained <;> simp [contained, bind_run]
  · rfl

end Executor

/-! ## Endings -/

namespace Primary

variable {operation : Primary} {executor : Executor} {project : Project} {session : Session}

/-- How backends answer a call is what they offer the operation that makes it. -/
theorem offers_of_answers {backends : Backends} {files : List SourceHandle} {call : Call}
    {answer : Answer Reply} (made : operation.callFor project files = some call)
    (answered : backends.Answers answer call) :
    operation.Offers backends project files (.ready answer) := by
  cases operation with
  | run | test | compileClasses =>
      obtain rfl := Option.some.inj made
      exact answered
  | translate translator =>
      cases translator with
      | js =>
          obtain rfl := Option.some.inj made
          exact answered
      | wasm debugInfo =>
          obtain ⟨variant, selected, rfl⟩ := Option.map_eq_some_iff.mp made
          exact ⟨variant, selected, answered⟩

/-- The answer to its call decides what comes of an operation. -/
theorem shaped_of_answers {call : Call} {answer : Answer Reply}
    (called : call ∈ executor.callsOf session (operation.call? project session.nextContext))
    (answered : executor.backends.Answers answer call) :
    (operation.shaped executor project session).1 = operation.ending project (.ready answer) := by
  have made := Executor.mem_callsOf called
  unfold call? at made
  split at made
  next served =>
    rcases shaped_run executor served.2 served.1 (offers_of_answers made answered) with
      ⟨fault, refused, _⟩ | ⟨_, after, ran, _⟩
    · simp [executor.callsOf_refused _ refused] at called
    · rw [ran]
  next => simp at made

/-- An exception is passed on by what is no translation, and everywhere if it is a request to
stop. -/
theorem ending_raised {exception : Exception}
    (uncontained : operation.family = .jvm ∨ exception.isFault = false) :
    operation.ending project (.ready (.error exception)) = .error (.raised exception) := by
  cases operation with
  | run | test | compileClasses => rfl
  | translate translator =>
      have stop : exception.isFault = false := by
        rcases uncontained with jvm | stop
        · cases translator <;> simp [family, Translator.family] at jvm
        · exact stop
      simp [ending, Translator.ending, Translator.contained, stop, bind, Except.bind]

/-- An operation that fails before there is something to report fails the same way, and reports
nothing. -/
theorem perform_of_shaped_fault {fault : Fault}
    (failed : (operation.shaped executor project session).1 = .error fault) :
    (operation.perform executor project session).1 = .error fault ∧
      operation.observation? executor project session = none := by
  rcases shaped : operation.shaped executor project session with ⟨ending, after⟩
  rw [shaped] at failed
  obtain rfl : ending = .error fault := failed
  exact ⟨by rw [perform_of_shaped_error executor shaped], by rw [observation?, shaped]⟩

/-- What comes of an operation is reported and given back, unless the sink asks to stop at it. -/
theorem perform_of_shaped_outcome {outcome : Outcome}
    (came : (operation.shaped executor project session).1 = .ok outcome) :
    operation.observation? executor project session =
        some ⟨outcome, project.target, executor.version.compiler⟩ ∧
      (operation.perform executor project session).1 =
        match executor.sink.halt? ⟨outcome, project.target, executor.version.compiler⟩ with
        | none => .ok outcome
        | some stop => .error (.raised stop) := by
  rcases shaped : operation.shaped executor project session with ⟨ending, after⟩
  rw [shaped] at came
  obtain rfl : ending = .ok outcome := came
  refine ⟨by rw [observation?, shaped], ?_⟩
  obtain ⟨events, _, reported⟩ :=
    executor.sink.report_yields ⟨outcome, project.target, executor.version.compiler⟩
  rw [perform_eq, bind_of_ok shaped]
  cases halts : executor.sink.halt? ⟨outcome, project.target, executor.version.compiler⟩ with
  | none =>
      rw [halts] at reported
      rw [Executor.report, bind_of_ok (reported after), pure_run]
  | some stop =>
      rw [halts] at reported
      rw [Executor.report, bind_of_error (reported after)]

end Primary

namespace Executor

variable {executor : Executor} {project : Project} {session : Session}

/-- Without an outcome nothing is written. -/
theorem compile_of_fault {fault : Fault} (output : String)
    (failed : (executor.compileClasses project session).1 = .error fault) :
    executor.compile project output session =
      (.error fault, (executor.compileClasses project session).2) := by
  rcases came : executor.compileClasses project session with ⟨ending, after⟩
  rw [came] at failed
  obtain rfl : ending = .error fault := failed
  exact bind_of_error came

/-- The answer to its call decides what is proposed. -/
theorem proposals_of_answers {line column : Int} {context : ContextId} {call : Call}
    {answer : Answer Reply}
    (made : (Request.complete line column).call? project context = some call)
    (answered : executor.backends.Answers answer call) :
    (executor.proposals project line column context).Makes (answer.mapError .raised) [call] := by
  unfold proposals
  unfold Request.call? at made
  cases listed : SourceHandle.ofProject context project with
  | nil => simp [listed] at made
  | cons file rest =>
      simp only [listed] at made
      split at made
      next inside =>
        obtain rfl := Option.some.inj made
        simp only [if_pos inside]
        have called := Translation.call_makes (.complete file line column project.target context)
          (.ready answer)
        rw [Backends.Answers] at answered
        rw [answered]
        cases answer <;> exact called
      next => simp at made

/-- A request to stop that comes from the engine gets through completion. -/
theorem complete_of_stop {line column : Int} {call : Call} {exception : Exception}
    (called : call ∈ executor.callsOf session
      ((Request.complete line column).call? project session.nextContext))
    (answered : executor.backends.Answers (.error exception) call)
    (stop : exception.isFault = false) :
    (executor.complete project line column session).1 = .error (.raised exception) := by
  have made := proposals_of_answers (mem_callsOf called) answered
  rw [complete_eq, orElseLogged_run]
  rcases Scratch.within_makes executor.scratch made with
    ⟨fault, refused, _⟩ | ⟨_, after, ran, _⟩
  · simp [executor.callsOf_refused _ refused] at called
  · simp [ran, Fault.isContained, stop]

/-- A request to stop that comes from a backend gets through highlighting. -/
theorem highlight_of_stop {call : Call} {exception : Exception}
    (called : call ∈ executor.callsOf session
      (project.target.highlighted.call? project session.nextContext))
    (answered : executor.backends.Answers (.error exception) call)
    (stop : exception.isFault = false) :
    (executor.highlight project session).1 = .error (.raised exception) := by
  have came := Primary.shaped_of_answers called answered
  rw [Primary.ending_raised (.inr stop)] at came
  rw [highlight_eq, orElseLogged_run, map_run, came]
  simp [Except.map, Fault.isContained, stop]

end Executor

/-! ## Requests -/

namespace Request

variable {request : Request} {executor : Executor} {project : Project} {session : Session}
  {exception : Exception}

/-- An exception that is not contained comes out of the request, and nothing is reported. -/
theorem perform_uncontained (raises : request.Raises executor project session exception)
    (uncontained : (∃ operation ∈ request.primary?, operation.family = .jvm) ∨
      exception.isFault = false) :
    (request.perform executor project session).1 = .error (.raised exception) ∧
      request.observation? executor project session = none := by
  obtain ⟨call, called, answered⟩ := raises
  cases request with
  | primary operation =>
      have came := Primary.shaped_of_answers called answered
      rw [Primary.ending_raised (by simpa [primary?] using uncontained)] at came
      obtain ⟨failed, unreported⟩ := Primary.perform_of_shaped_fault came
      rw [perform, map_run, failed]
      exact ⟨rfl, unreported⟩
  | compile output =>
      have came := Primary.shaped_of_answers called answered
      rw [Primary.ending_raised (.inl rfl)] at came
      obtain ⟨failed, unreported⟩ := Primary.perform_of_shaped_fault came
      rw [perform, map_run, Executor.compile_of_fault output failed]
      exact ⟨rfl, unreported⟩
  | complete line column =>
      have stop : exception.isFault = false := by simpa [primary?] using uncontained
      rw [perform, map_run, Executor.complete_of_stop called answered stop]
      exact ⟨rfl, rfl⟩
  | highlight =>
      have stop : exception.isFault = false := by simpa [primary?] using uncontained
      rw [perform, map_run, Executor.highlight_of_stop called answered stop]
      exact ⟨rfl, rfl⟩

end Request

end Multitarget
