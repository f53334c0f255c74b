import Multitarget.Proofs.Executor.Primary
import Multitarget.Proofs.Session.Scratch

/-!
# Serving projects

The primary operations are one scheme: refuse a project of another family, answer
for a project without files, and otherwise hand the files to a backend inside a
scratch context and shape what comes of it. So the behaviour of the backend decides
how an operation ends, unless there is no scratch context for it or the telemetry
sink asks to stop.
-/

namespace Multitarget

/-! ## Telemetry -/

/-- Whether a fault is a request to stop that comes from a telemetry sink. -/
def Sink.Stops (sink : Sink) (fault : Fault) : Prop :=
  ∃ name refusal observation exception, sink = .observer name refusal ∧
    refusal observation = some exception ∧ exception.isFault = false ∧ fault = .raised exception

/-- What a sink leaves in the trace of an observation. -/
def Sink.notes (sink : Sink) (observation : Observation) : List Event :=
  match sink with
  | .none => []
  | .log event =>
      [.logged ⟨.info, event, ("component", .text "telemetry") :: observation.summary⟩]
  | .span event => [.attached event observation.summary]
  | .observer _ _ => [.observed observation]

theorem Sink.notes_outer (sink : Sink) (observation : Observation) :
    Trace.Outer (sink.notes observation) (sink.notes observation) := by
  cases sink with
  | none => exact .nil
  | log | span | observer => exact ⟨rfl, by simp [notes]; exact .inl rfl⟩

/-- What a sink raises at an observation. -/
def Sink.refusal? : Sink → Observation → Option Exception
  | .none, _ => Option.none
  | .log _, _ => Option.none
  | .span _, _ => Option.none
  | .observer _ refusal, observation => refusal observation

/-- What a sink raises at an observation to ask to stop. -/
def Sink.halt? (sink : Sink) (observation : Observation) : Option Exception :=
  (sink.refusal? observation).filter fun exception => !exception.isFault

theorem Sink.stops_of_halt? {sink : Sink} {observation : Observation} {exception : Exception}
    (halts : sink.halt? observation = some exception) : sink.Stops (.raised exception) := by
  obtain ⟨refused, stop⟩ := Option.filter_eq_some_iff.mp halts
  cases sink with
  | none | log | span => simp [refusal?] at refused
  | observer name refusal =>
      exact ⟨name, refusal, observation, exception, rfl, refused, by simpa using stop, rfl⟩

/-- How an action ends that gives nothing and may raise an exception. -/
def endingOf : Option Exception → Except Fault Unit
  | none => .ok ()
  | some exception => .error (.raised exception)

theorem Sink.record_yields (sink : Sink) (observation : Observation) :
    (sink.record observation).Yields (endingOf (sink.refusal? observation))
      (sink.notes observation) := by
  cases sink with
  | none => exact Action.yields_pure ()
  | log event => exact Action.yields_log _ _ _
  | span event => exact Action.yields_emit _
  | observer name refusal =>
      refine (Action.yields_emit _).bind_ok ?_
      simp only [refusal?]
      cases refusal observation with
      | none => exact Action.yields_pure ()
      | some exception => exact Action.yields_throw _

/-- Reporting to a sink notes what the sink does of the observation, and fails only if the sink
asks to stop. -/
theorem Sink.report_yields (sink : Sink) (observation : Observation) :
    ∃ events, Trace.Outer (sink.notes observation) events ∧
      (sink.report observation).Yields (endingOf (sink.halt? observation)) events := by
  unfold report halt?
  have recorded := (sink.record_yields observation).observe
  have outer := sink.notes_outer observation
  cases refused : sink.refusal? observation with
  | none =>
      rw [refused] at recorded
      exact ⟨_, by simpa using outer, recorded.bind_ok (Action.yields_pure ())⟩
  | some exception =>
      rw [refused] at recorded
      by_cases contained : exception.isFault
      · have halts : (some exception).filter (fun raised => !raised.isFault) = Option.none := by
          simp [contained]
        have noted : Trace.Outer [] [Event.logged ⟨.warning, "telemetry_record_failed",
            [("sink", .text sink.name), ("error", .text (Fault.raised exception).message)]⟩] :=
          ⟨rfl, by simp [Event.isRecord, Log.Record.isTelemetry]⟩
        rw [halts]
        refine ⟨_, ?_, recorded.bind_ok ((Action.yields_log _ _ _).of_eq (if_pos contained))⟩
        simpa using outer.append noted
      · have halts : (some exception).filter (fun raised => !raised.isFault) = some exception := by
          simp [contained]
        rw [halts]
        refine ⟨_, ?_, recorded.bind_ok ((Action.yields_throw _).of_eq (if_neg contained))⟩
        simpa using outer

/-! ## Calls -/

namespace Translation

/-- A call gives the reply of the operation. -/
theorem call_makes (event : Call) (offered : Operation (Answer Reply)) :
    (call event offered).Makes offered.reply (offered.calls (some event)) := by
  cases offered with
  | absent exception => exact Action.makes_throw _
  | unfit exception => exact Action.makes_throw _
  | ready answer =>
      cases answer with
      | ok reply => exact (Action.makes_call event).bind_ok (Action.makes_pure reply)
      | error exception => exact (Action.makes_call event).bind_ok (Action.makes_throw _)

theorem outcomeOf_makes (reply : Reply) : (outcomeOf reply).Makes reply.asOutcome [] := by
  cases reply with
  | outcome known => exact Action.makes_pure known
  | proposals items => exact Action.makes_throw _

theorem scriptPayload_makes (artifact : Artifact) :
    (scriptPayload artifact).Makes (Translator.js.payload artifact) [] := by
  cases artifact with
  | script code => exact Action.makes_pure _
  | classes | module => exact Action.makes_throw _

theorem modulePayload_makes (debugInfo : Bool) (artifact : Artifact) :
    (modulePayload debugInfo artifact).Makes
      ((Translator.wasm debugInfo).payload artifact) [] := by
  cases artifact with
  | module parts => exact Action.makes_pure _
  | classes | script => exact Action.makes_throw _

end Translation

namespace Translator

theorem contain_makes (translator : Translator) (exception : Exception) (event : String)
    {fields : List (String × Json.Document)}
    (plain : Log.Record.isTelemetry ⟨.error, event, ("error", .text exception.text) :: fields⟩ =
      false) :
    (Translation.contain exception translator.missing event fields).Makes
      (translator.contained exception) [] := by
  unfold Translation.contain contained
  split
  next isFault => exact (Action.makes_log _ _ _ plain).bind_ok (Action.makes_pure _)
  next stop => exact Action.makes_throw _

theorem resultOf_makes {translator : Translator} {payloadOf : Artifact → Action Payload}
    (payloads : ∀ artifact, (payloadOf artifact).Makes (translator.payload artifact) [])
    (reply : Reply) :
    (Translation.resultOf payloadOf translator.missing reply).Makes
      (do translator.translated (← reply.asOutcome)) [] := by
  refine (Translation.outcomeOf_makes reply).bind fun outcome => ?_
  rcases outcome with result | ⟨artifact, diagnostics⟩ | diagnostics
  · exact Action.makes_pure _
  · exact (payloads artifact).bind fun payload => Action.makes_pure _
  · exact Action.makes_pure _

/-- A translator makes of the files what it makes of the operation it is offered for them. -/
theorem call_makes {translator : Translator} {executor : Executor} {project : Project}
    {files : List SourceHandle} {offered : Operation (Answer Reply)}
    (offers : translator.Offers executor.backends project files offered) :
    (translator.call executor project files).Makes (translator.ending offered)
      (offered.calls (translator.callFor project files)) := by
  cases translator with
  | js =>
      subst offers
      unfold call Translation.translateJs
      cases executor.backends.translateJs with
      | absent exception => exact Action.makes_throw _
      | unfit exception => exact js.contain_makes exception _ rfl
      | ready translate =>
          simp only [Operation.map, ending, Operation.calls, callFor, Option.toList]
          cases answer : translate files project.argumentWords with
          | ok reply =>
              exact (Action.makes_call _).bind_ok
                (resultOf_makes Translation.scriptPayload_makes reply)
          | error exception =>
              exact (Action.makes_call _).bind_ok (js.contain_makes exception _ rfl)
  | wasm debugInfo =>
      obtain ⟨variant, selected, rfl⟩ := offers
      unfold call Translation.translateWasm
      have found : (Translation.variant project.target).Makes (.ok variant) [] := by
        unfold Translation.variant
        rw [selected]
        exact Action.makes_pure variant
      cases executor.backends.translateWasm with
      | absent exception => exact (Action.makes_throw _).bind_error
      | unfit exception =>
          exact found.bind_ok ((wasm debugInfo).contain_makes exception _ rfl)
      | ready translate =>
          simp only [Operation.map, ending, Operation.calls, callFor, selected, Option.map,
            Option.toList]
          cases answer : translate files project.argumentWords variant debugInfo with
          | ok reply =>
              refine found.bind_ok ((Action.makes_call _).bind_ok ?_)
              rw [answer]
              exact resultOf_makes (Translation.modulePayload_makes debugInfo) reply
          | error exception =>
              refine found.bind_ok ((Action.makes_call _).bind_ok ?_)
              rw [answer]
              exact (wasm debugInfo).contain_makes exception _ rfl

end Translator

/-! ## The common scheme -/

namespace Executor

variable {α β : Type}

/-- Serves a project of a family: `vacant` without files, and otherwise what `finish` makes of a
call inside a scratch context. -/
def serve (executor : Executor) (project : Project) (family : Family) (vacant : α)
    (call : List SourceHandle → Action β) (finish : β → Action α) : Action α := do
  expect project family
  if project.files.isEmpty then return vacant
  let value ← executor.dispatch project call
  finish value

theorem expect_makes {project : Project} {family : Family}
    (routed : project.target.family = family) : (expect project family).Makes (.ok ()) [] :=
  (Action.makes_pure ()).of_eq (if_pos routed)

theorem expect_refuses {project : Project} {family : Family}
    (elsewhere : project.target.family ≠ family) :
    (expect project family).Makes (.error (.failure (.routing project.target.name))) [] :=
  (Action.makes_failLogged (.routing project.target.name)).of_eq (if_neg elsewhere)

/-- A project of another family is refused. -/
theorem serve_elsewhere (executor : Executor) {project : Project} {family : Family} (vacant : α)
    (call : List SourceHandle → Action β) (finish : β → Action α)
    (elsewhere : project.target.family ≠ family) :
    (executor.serve project family vacant call finish).Makes
      (.error (.failure (.routing project.target.name))) [] :=
  (expect_refuses elsewhere).bind_error

theorem serve_vacant (executor : Executor) {project : Project} {family : Family} (vacant : α)
    (call : List SourceHandle → Action β) (finish : β → Action α)
    (routed : project.target.family = family) (noFiles : project.files = []) :
    (executor.serve project family vacant call finish).Makes (.ok vacant) [] := by
  refine (expect_makes routed).bind_ok ((Action.makes_pure vacant).of_eq ?_)
  simp [noFiles]

/-- A call inside a scratch context ends as it does by itself, if there is a context for it. -/
theorem dispatch_run (executor : Executor) (project : Project)
    {call : List SourceHandle → Action β} {session : Session} {ending : Except Fault β}
    {called : List Call}
    (made : (call (SourceHandle.ofProject session.nextContext project)).Makes ending called) :
    (∃ fault, Scratch.acquire executor.scratch session = (.error fault, session) ∧
      executor.dispatch project call session = (.error fault, session)) ∨
    (Scratch.acquire executor.scratch session).1.isOk = true ∧ ∃ after,
      executor.dispatch project call session = (ending, after) ∧ session.Uses called after :=
  Scratch.within_makes executor.scratch ((Action.makes_log _ _ _ rfl).bind_ok made)

/-- A project with files is served what is made of the call, if there is a scratch context. -/
theorem serve_run (executor : Executor) {project : Project} {family : Family} {vacant : α}
    {call : List SourceHandle → Action β} {finish : β → Action α} {session : Session}
    {ending : Except Fault β} {following : β → Except Fault α} {called : List Call}
    (hasFiles : project.files ≠ []) (routed : project.target.family = family)
    (made : (call (SourceHandle.ofProject session.nextContext project)).Makes ending called)
    (finished : ∀ value, (finish value).Makes (following value) []) :
    (∃ fault, Scratch.acquire executor.scratch session = (.error fault, session) ∧
      executor.serve project family vacant call finish session = (.error fault, session)) ∨
    (Scratch.acquire executor.scratch session).1.isOk = true ∧ ∃ after,
      executor.serve project family vacant call finish session = (ending >>= following, after) ∧
        session.Uses called after := by
  have handed : executor.serve project family vacant call finish session =
      (executor.dispatch project call >>= finish) session := by
    unfold serve
    rw [expect, if_pos routed, bind_of_ok (pure_run () session)]
    simp [hasFiles]
  rw [handed]
  rcases executor.dispatch_run project made with
    ⟨fault, refused, failed⟩ | ⟨provided, after, ran, uses⟩
  · exact .inl ⟨fault, refused, bind_of_error failed⟩
  · refine .inr ⟨provided, ?_⟩
    cases ending with
    | error fault => exact ⟨after, bind_of_error ran, uses⟩
    | ok value =>
        obtain ⟨more, yielded, inner⟩ := finished value
        exact ⟨after.note more, (bind_of_ok ran).trans (yielded after), uses.note inner⟩

/-! ## Shaping -/

/-- Nothing that shaping logs comes from telemetry. -/
theorem forProjectLog_plain (diagnostics : Diagnostics) (project : Project) :
    ∀ record ∈ diagnostics.forProjectLog project, record.isTelemetry = false := by
  intro record listed
  simp only [Diagnostics.forProjectLog] at listed
  split at listed
  next none => simp at listed
  next foreign =>
    split at listed <;>
      simp only [List.nil_append, List.cons_append, List.mem_cons, List.not_mem_nil, or_false]
        at listed
    · rcases listed with rfl | rfl <;> rfl
    · subst listed
      rfl

theorem shapeCompilationLog_plain (outcome : Outcome) (project : Project) :
    ∀ record ∈ outcome.shapeCompilationLog project, record.isTelemetry = false := by
  intro record listed
  cases outcome with
  | execution result => exact forProjectLog_plain _ project record listed
  | compilation result =>
      rcases List.mem_append.mp listed with moved | demoted
      · exact forProjectLog_plain _ project record moved
      · split at demoted
        · simp only [List.mem_singleton] at demoted
          subst demoted
          rfl
        · simp at demoted

theorem shapeOutcome_makes (project : Project) (outcome : Outcome) :
    (shapeOutcome project outcome).Makes (.ok (outcome.shape project)) [] :=
  (Action.makes_logAll (forProjectLog_plain _ project)).bind_ok (Action.makes_pure _)

theorem shapeCompilation_makes (project : Project) (outcome : Outcome) :
    (shapeCompilation project outcome).Makes (.ok (outcome.shapeCompilation project)) [] :=
  (Action.makes_logAll (shapeCompilationLog_plain outcome project)).bind_ok (Action.makes_pure _)

theorem shapeExecution_makes (project : Project) (result : Execution) :
    (shapeExecution project result).Makes (.ok (result.shape project)) [] :=
  (Action.makes_logAll (forProjectLog_plain _ project)).bind_ok (Action.makes_pure _)

/-- What is made of the reply of a backend that answers with outcomes. -/
theorem finish_makes {shape : Outcome → Action Outcome} {shaped : Outcome → Outcome}
    (shapes : ∀ outcome, (shape outcome).Makes (.ok (shaped outcome)) []) (reply : Reply) :
    (Translation.outcomeOf reply >>= shape).Makes (do return shaped (← reply.asOutcome)) [] :=
  (Translation.outcomeOf_makes reply).bind shapes

end Executor

/-! ## Operations -/

theorem Translator.shaped_eq (executor : Executor) (project : Project) (translator : Translator) :
    translator.shaped executor project =
      executor.serve project translator.family (.empty translator.missing)
        (fun files => translator.call executor project files)
        (Executor.shapeExecution project) := by
  cases translator <;> rfl

/-- A translation ends in what the translator makes of the behaviour of its backend, if there is a
scratch context. -/
theorem Translator.shaped_run {translator : Translator} (executor : Executor) {project : Project}
    {session : Session} {offered : Operation (Answer Reply)} (hasFiles : project.files ≠ [])
    (routed : project.target.family = translator.family)
    (offers : translator.Offers executor.backends project
      (SourceHandle.ofProject session.nextContext project) offered) :
    (∃ fault, Scratch.acquire executor.scratch session = (.error fault, session) ∧
      translator.shaped executor project session = (.error fault, session)) ∨
    (Scratch.acquire executor.scratch session).1.isOk = true ∧ ∃ after,
      translator.shaped executor project session =
        (do return (← translator.ending offered).shape project, after) ∧
      session.Uses (offered.calls (translator.callFor project
        (SourceHandle.ofProject session.nextContext project))) after := by
  rw [shaped_eq]
  exact executor.serve_run hasFiles routed (call_makes offers)
    (Executor.shapeExecution_makes project)

namespace Primary

variable {operation : Primary} (executor : Executor) {project : Project}

theorem shaped_elsewhere (elsewhere : project.target.family ≠ operation.family) :
    (operation.shaped executor project).Makes
      (.error (.failure (.routing project.target.name))) [] := by
  cases operation with
  | run | test | compileClasses => exact executor.serve_elsewhere _ _ _ elsewhere
  | translate translator =>
      rw [shaped, Translator.shaped_eq]
      exact (executor.serve_elsewhere (.empty translator.missing) _ _ elsewhere).map
        Outcome.execution

theorem shaped_vacant (routed : project.target.family = operation.family)
    (noFiles : project.files = []) :
    (operation.shaped executor project).Makes (.ok operation.vacant) [] := by
  cases operation with
  | run | test | compileClasses => exact executor.serve_vacant _ _ _ routed noFiles
  | translate translator =>
      rw [shaped, Translator.shaped_eq]
      exact (executor.serve_vacant _ _ _ routed noFiles).map Outcome.execution

/-- The behaviour of the backend decides what comes of an operation, if there is a scratch
context, and the context is used for the call of the backend alone. -/
theorem shaped_run {session : Session} {offered : Operation (Answer Reply)}
    (hasFiles : project.files ≠ []) (routed : project.target.family = operation.family)
    (offers : operation.Offers executor.backends project
      (SourceHandle.ofProject session.nextContext project) offered) :
    (∃ fault, Scratch.acquire executor.scratch session = (.error fault, session) ∧
      operation.shaped executor project session = (.error fault, session)) ∨
    (Scratch.acquire executor.scratch session).1.isOk = true ∧ ∃ after,
      operation.shaped executor project session = (operation.ending project offered, after) ∧
      session.Uses (offered.calls (operation.callFor project
        (SourceHandle.ofProject session.nextContext project))) after := by
  cases operation with
  | run addByteCode =>
      subst offers
      exact executor.serve_run hasFiles routed (Translation.call_makes _ _)
        (Executor.finish_makes (Executor.shapeOutcome_makes project))
  | test addByteCode =>
      subst offers
      exact executor.serve_run hasFiles routed (Translation.call_makes _ _)
        (Executor.finish_makes (Executor.shapeOutcome_makes project))
  | compileClasses =>
      subst offers
      exact executor.serve_run hasFiles routed (Translation.call_makes _ _)
        (Executor.finish_makes (Executor.shapeCompilation_makes project))
  | translate translator =>
      rw [shaped, map_run]
      rcases translator.shaped_run executor hasFiles routed offers with
        ⟨fault, refused, failed⟩ | ⟨provided, after, ran, uses⟩
      · refine .inl ⟨fault, refused, ?_⟩
        rw [failed]
        rfl
      · refine .inr ⟨provided, after, ?_, uses⟩
        rw [ran, ending]
        cases translator.ending offered <;> rfl

end Primary

/-! ## Reporting -/

/-- Whether a fault is none of a backend's: there is no scratch context, or the telemetry sink asks
to stop. -/
def Executor.Interrupted (executor : Executor) (session : Session) (fault : Fault) : Prop :=
  Scratch.acquire executor.scratch session = (.error fault, session) ∨ executor.sink.Stops fault

namespace Primary

variable {operation : Primary} (executor : Executor) {project : Project} {session after : Session}

theorem perform_of_shaped_error {fault : Fault}
    (shaped : operation.shaped executor project session = (.error fault, after)) :
    operation.perform executor project session = (.error fault, after) := by
  rw [perform_eq]
  exact bind_of_error shaped

/-- What comes of an operation is reported and given back, unless the telemetry sink asks to
stop. -/
theorem perform_of_shaped_ok {outcome : Outcome}
    (shaped : operation.shaped executor project session = (.ok outcome, after)) :
    ∃ events,
      Trace.Outer (executor.sink.notes ⟨outcome, project.target, executor.version.compiler⟩)
        events ∧
      (operation.perform executor project session = (.ok outcome, after.note events) ∨
        ∃ fault, executor.sink.Stops fault ∧
          operation.perform executor project session = (.error fault, after.note events)) := by
  rw [perform_eq, bind_of_ok shaped]
  obtain ⟨events, outer, reported⟩ :=
    executor.sink.report_yields ⟨outcome, project.target, executor.version.compiler⟩
  refine ⟨events, outer, ?_⟩
  cases halts : executor.sink.halt? ⟨outcome, project.target, executor.version.compiler⟩ with
  | none =>
      rw [halts] at reported
      exact .inl (bind_of_ok (reported after))
  | some exception =>
      rw [halts] at reported
      exact .inr ⟨_, Sink.stops_of_halt? halts, bind_of_error (reported after)⟩

/-- The behaviour of the backend decides how an operation ends, if nothing interrupts it. -/
theorem perform_run {offered : Operation (Answer Reply)} (hasFiles : project.files ≠ [])
    (routed : project.target.family = operation.family)
    (offers : operation.Offers executor.backends project
      (SourceHandle.ofProject session.nextContext project) offered) :
    ∃ ending after, operation.perform executor project session = (ending, after) ∧
      (ending = operation.ending project offered ∨
        ∃ fault, executor.Interrupted session fault ∧ ending = .error fault) := by
  rcases shaped_run executor hasFiles routed offers with
    ⟨fault, refused, failed⟩ | ⟨_, after, ran, _⟩
  · exact ⟨_, _, perform_of_shaped_error executor failed, .inr ⟨fault, .inl refused, rfl⟩⟩
  · cases came : operation.ending project offered with
    | error fault =>
        rw [came] at ran
        exact ⟨_, _, perform_of_shaped_error executor ran, .inl rfl⟩
    | ok outcome =>
        rw [came] at ran
        obtain ⟨events, _, taken | ⟨fault, stops, raised⟩⟩ := perform_of_shaped_ok executor ran
        · exact ⟨_, _, taken, .inl rfl⟩
        · exact ⟨_, _, raised, .inr ⟨fault, .inr stops, rfl⟩⟩

/-- An operation that gives an outcome gives the one for no files, or what it makes of the
behaviour of its backend. In a well-formed tree it leaves all files as they were. -/
theorem of_perform_ok {outcome : Outcome}
    (ran : operation.perform executor project session = (.ok outcome, after)) :
    project.target.family = operation.family ∧
    (session.files.WellFormed → session.Passes after) ∧
    (project.files = [] ∧ outcome = operation.vacant ∨
      project.files ≠ [] ∧ ∃ offered, operation.Offers executor.backends project
          (SourceHandle.ofProject session.nextContext project) offered ∧
        operation.ending project offered = .ok outcome) := by
  by_cases routed : project.target.family = operation.family
  · refine ⟨routed, ?_⟩
    have step : ∀ {ending between},
        operation.shaped executor project session = (ending, between) →
        ending = .ok outcome ∧ ∃ events, after = between.note events := by
      intro ending between shaped
      cases ending with
      | error fault =>
          have failed := perform_of_shaped_error executor shaped
          simp [failed] at ran
      | ok value =>
          obtain ⟨events, _, taken | ⟨fault, stops, raised⟩⟩ :=
            perform_of_shaped_ok executor shaped
          · rw [taken, ended_inj] at ran
            exact ⟨ran.1, events, ran.2.symm⟩
          · simp [raised] at ran
    by_cases noFiles : project.files = []
    · obtain ⟨noted, yielded, _⟩ := shaped_vacant executor routed noFiles
      obtain ⟨same, events, rfl⟩ := step (yielded session)
      simp only [Except.ok.injEq] at same
      exact ⟨fun _ => ((Session.Passes.refl session).note noted).note events,
        .inl ⟨noFiles, same.symm⟩⟩
    · obtain ⟨offered, offers⟩ := operation.exists_offers executor.backends routed
        (SourceHandle.ofProject session.nextContext project)
      rcases shaped_run executor noFiles routed offers with
        ⟨fault, _, failed⟩ | ⟨_, between, shaped, uses⟩
      · obtain ⟨impossible, _⟩ := step failed
        simp at impossible
      · obtain ⟨same, events, rfl⟩ := step shaped
        exact ⟨fun wellFormed => (uses.passes wellFormed).note events,
          .inr ⟨noFiles, offered, offers, same⟩⟩
  · obtain ⟨_, refused, _⟩ := shaped_elsewhere executor routed
    have failed := perform_of_shaped_error executor (refused session)
    simp [failed] at ran

end Primary

end Multitarget
