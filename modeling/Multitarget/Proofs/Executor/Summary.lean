import Multitarget.Proofs.Domain.Settling
import Multitarget.Proofs.Executor.Advisory

/-!
# What the log tells of results

Telemetry that goes to the log leaves one record for each result of a primary operation, with
counts of the errors and warnings that the caller gets and with a status. The status of an
execution is read from its errors. That of a compilation is read from whether something was
produced, and agrees with its errors because shaping takes a payload away where there are any.
-/

namespace Multitarget

/-! ## Outcomes and their errors -/

theorem Diagnostics.count_error_eq_zero_iff (diagnostics : Diagnostics) :
    diagnostics.count (some .error) = 0 ↔ diagnostics.hasErrors = false := by
  simp [count, hasErrors, Diagnostic.isError]

theorem Execution.status_of_clean {execution : Execution}
    (clean : execution.diagnostics.hasErrors = false) :
    execution.status = if execution.exception.isSome then .internalError else .compiled :=
  if_neg (Bool.eq_false_iff.mp clean)

namespace Outcome

/-- Whether what a compilation produced has no errors. The errors of an execution are in its
status anyway. -/
def ProducesClean : Outcome → Prop
  | .compilation (.compiled _ diagnostics) => diagnostics.hasErrors = false
  | .compilation (.notCompiled _) => True
  | .execution _ => True

theorem producesClean_shapeCompilation (outcome : Outcome) (project : Project) :
    (outcome.shapeCompilation project).ProducesClean := by
  cases outcome with
  | execution result =>
      simp only [shapeCompilation]
      split <;> trivial
  | compilation compilation =>
      simp only [shapeCompilation]
      cases produced : compilation.shape project with
      | compiled artifact diagnostics =>
          exact (compilation.of_shape_eq_compiled project produced).1
      | notCompiled diagnostics => trivial

namespace ProducesClean

variable {outcome : Outcome}

/-- With errors an outcome counts as not compiled. -/
theorem status_of_errors (clean : outcome.ProducesClean)
    (errors : outcome.diagnostics.hasErrors = true) : outcome.status = .notCompiled := by
  rcases outcome with result | ⟨artifact, diagnostics⟩ | diagnostics
  · exact if_pos errors
  · exact absurd errors (Bool.eq_false_iff.mp clean)
  · rfl

/-- Any other status stands for no errors, and for a fault exactly if it says so. -/
theorem of_status_ne (clean : outcome.ProducesClean) (other : outcome.status ≠ .notCompiled) :
    outcome.diagnostics.count (some .error) = 0 ∧
      outcome.hasException = (outcome.status == .internalError) := by
  have unmarred : outcome.diagnostics.hasErrors = false :=
    Bool.eq_false_iff.mpr fun errors => other (clean.status_of_errors errors)
  refine ⟨outcome.diagnostics.count_error_eq_zero_iff.mpr unmarred, ?_⟩
  rcases outcome with result | ⟨artifact, diagnostics⟩ | diagnostics
  · rw [hasException, status, Execution.status_of_clean unmarred]
    cases result.exception <;> rfl
  · rfl
  · exact absurd rfl other

end ProducesClean

end Outcome

namespace Primary

variable {operation : Primary} {executor : Executor} {project : Project} {session : Session}
  {offered : Operation (Answer Reply)} {outcome : Outcome}

theorem producesClean_ending
    (declared : ∀ reply, offered = .ready (.ok (.outcome reply)) → operation.Declares reply)
    (came : operation.ending project offered = .ok outcome) : outcome.ProducesClean := by
  cases operation with
  | run | test =>
      obtain ⟨reply, same, rfl⟩ := exists_of_reply came
      obtain ⟨result, rfl⟩ := declared reply same
      trivial
  | compileClasses =>
      obtain ⟨reply, _, rfl⟩ := exists_of_reply came
      exact reply.producesClean_shapeCompilation project
  | translate translator =>
      obtain ⟨result, _, same⟩ := ok_of_bind came
      obtain rfl := Except.ok.inj same
      trivial

/-- What comes of an operation was not produced with errors, if its backend answers in kind. -/
theorem producesClean_shaped
    (declared : ∀ reply, operation.Answers executor.backends project
      (SourceHandle.ofProject session.nextContext project) (.ok (.outcome reply)) →
        operation.Declares reply)
    (came : (operation.shaped executor project session).1 = .ok outcome) :
    outcome.ProducesClean := by
  by_cases routed : project.target.family = operation.family
  · obtain ⟨offered, offers⟩ := operation.exists_offers executor.backends routed
      (SourceHandle.ofProject session.nextContext project)
    rw [shaped_ending routed fun _ => offers] at came
    split at came
    next noFiles =>
      obtain rfl := Except.ok.inj came
      cases operation <;> first | trivial | rfl
    next hasFiles =>
      obtain ⟨_, _, ended⟩ := ok_of_bind came
      refine producesClean_ending (fun reply same => declared reply ?_) ended
      rw [Answers, ← same]
      exact offers
  · obtain ⟨_, refused, _⟩ := shaped_elsewhere executor routed
    rw [refused session] at came
    cases came

end Primary

/-! ## Records of the log -/

/-- What a record of the log says under a name. -/
def Log.Record.value? (record : Log.Record) (name : String) : Option Json.Document :=
  record.fields.lookup name

/-- Whether a record of the log tells of an outcome: its status, whether it carries a fault, and
how many errors and warnings it has. -/
structure Log.Record.Summarizes (record : Log.Record) (outcome : Outcome) : Prop where
  status : record.value? "status" = some (.text outcome.status.name)
  exception : record.value? "has_exception" = some (.bool outcome.hasException)
  errors : record.value? "errors" = some (.int (outcome.diagnostics.count (some .error)))
  warnings : record.value? "warnings" = some (.int (outcome.diagnostics.count (some .warning)))

/-- Whether the status that a record of the log gives agrees with the rest of the record. -/
structure Log.Record.Agrees (record : Log.Record) : Prop where
  compiled : record.value? "status" = some (.text "compiled") →
    record.value? "errors" = some (.int 0) ∧ record.value? "has_exception" = some (.bool false)
  internalError : record.value? "status" = some (.text "internal_error") →
    record.value? "errors" = some (.int 0) ∧ record.value? "has_exception" = some (.bool true)
  notCompiled : ∀ number, record.value? "errors" = some (.int number) → 0 < number →
    record.value? "status" = some (.text "not_compiled")

theorem Status.name_inj {first second : Status} (same : first.name = second.name) :
    first = second := by
  cases first <;> cases second <;> first | rfl | simp [name] at same

namespace Log.Record.Summarizes

variable {record : Log.Record} {outcome : Outcome}

/-- A record of an outcome names the status of that outcome only. -/
theorem status_eq (tells : record.Summarizes outcome) (told : Status)
    (named : record.value? "status" = some (.text told.name)) : outcome.status = told :=
  Status.name_inj (Json.Document.text.inj (Option.some.inj (tells.status.symm.trans named)))

/-- A status other than that of errors comes with none, and with a fault exactly if it says so. -/
theorem of_status_ne (tells : record.Summarizes outcome) (clean : outcome.ProducesClean)
    (other : outcome.status ≠ .notCompiled) :
    record.value? "errors" = some (.int 0) ∧
      record.value? "has_exception" = some (.bool (outcome.status == .internalError)) := by
  obtain ⟨unmarred, carries⟩ := clean.of_status_ne other
  rw [tells.errors, tells.exception, unmarred, carries]
  exact ⟨rfl, rfl⟩

/-- The record of an outcome that was not produced with errors agrees with itself. -/
theorem agrees (tells : record.Summarizes outcome) (clean : outcome.ProducesClean) :
    record.Agrees where
  compiled named := by
    have same := tells.status_eq .compiled named
    have rest := tells.of_status_ne clean (same ▸ nofun)
    rwa [same] at rest
  internalError named := by
    have same := tells.status_eq .internalError named
    have rest := tells.of_status_ne clean (same ▸ nofun)
    rwa [same] at rest
  notCompiled number counted positive := by
    rw [tells.errors] at counted
    obtain rfl := Json.Document.int.inj (Option.some.inj counted)
    have errors : outcome.diagnostics.hasErrors = true := by
      rw [← Bool.not_eq_false, ← Diagnostics.count_error_eq_zero_iff]
      omega
    rw [tells.status, clean.status_of_errors errors]
    rfl

end Log.Record.Summarizes

/-! ## Requests -/

/-- Whether a response gives its caller an outcome: as it is, or by whether something was
produced. -/
def Response.Gives (outcome : Outcome) : Response → Prop
  | .outcome given => given = outcome
  | .compiled response => response.success = true ↔
      ∃ artifact diagnostics, outcome = .compilation (.compiled artifact diagnostics)
  | .proposals _ => False
  | .diagnostics _ => False

theorem Sink.not_stops_log (event : String) (fault : Fault) : ¬ (Sink.log event).Stops fault := by
  rintro ⟨_, _, _, _, same, _⟩
  cases same

namespace Primary

variable {operation : Primary} {executor : Executor} {project : Project} {session : Session}

/-- What was observed of an operation is given back, where nothing asks to stop. -/
theorem perform_of_observation {observation : Observation}
    (steady : ∀ fault, ¬ executor.sink.Stops fault)
    (observed : operation.observation? executor project session = some observation) :
    ∃ after, operation.perform executor project session = (.ok observation.outcome, after) := by
  rcases shaped : operation.shaped executor project session with ⟨fault | outcome, between⟩
  · simp [observation?, shaped] at observed
  · simp only [observation?, shaped, Option.some.injEq] at observed
    subst observed
    obtain ⟨events, _, taken | ⟨fault, stops, _⟩⟩ := perform_of_shaped_ok executor shaped
    · exact ⟨_, taken⟩
    · exact absurd stops (steady fault)

end Primary

namespace Request

/-- Whether a request ends with its caller having an outcome. Only where classes or their report
are to be written can it fail after the outcome is there. -/
def Delivers (request : Request) (outcome : Outcome) : Except Fault Response → Prop
  | .ok response => response.Gives outcome
  | .error _ => ∃ output, request = .compile output

variable {executor : Executor} {project : Project} {session : Session} {request : Request}

/-- A request gives its caller what was observed of it. -/
theorem delivers_observed {observation : Observation}
    (steady : ∀ fault, ¬ executor.sink.Stops fault)
    (observed : request.observation? executor project session = some observation) :
    request.Delivers observation.outcome (request.perform executor project session).1 := by
  cases request with
  | primary operation =>
      obtain ⟨after, ran⟩ := Primary.perform_of_observation steady observed
      rw [perform, map_run, ran]
      rfl
  | compile output =>
      obtain ⟨between, came⟩ := Primary.perform_of_observation steady observed
      rw [perform, map_run]
      rcases returned : executor.compile project output session with ⟨fault | response, after⟩
      · exact ⟨output, rfl⟩
      · rcases Executor.compile_run_of_classes came returned with
          ⟨classes, diagnostics, _, _, _, same, _, _, rfl⟩ | ⟨unproduced, _, _, _, _, _, rfl⟩
        · exact iff_of_true rfl ⟨_, _, same⟩
        · refine iff_of_false Bool.false_ne_true ?_
          rintro ⟨artifact, diagnostics, same⟩
          exact unproduced artifact diagnostics same
  | complete | highlight => cases observed

/-- Where telemetry goes to the log, a primary operation that comes to a result leaves one record,
which tells of the very result that its caller gets, and one that does not leaves none. If the
backend answers in kind, the status that the record gives agrees with its numbers. -/
theorem perform_summarized {event : String} (logs : executor.sink = .log event)
    {operation : Primary} (primary : request.primary? = some operation) :
    match request.observation? executor project session with
    | none => Trace.telemetry (request.perform executor project session).2.trace =
        Trace.telemetry session.trace
    | some observation => ∃ record : Log.Record,
        Trace.telemetry (request.perform executor project session).2.trace =
          Trace.telemetry session.trace ++ [.logged record] ∧
        record.event = event ∧ record.Summarizes observation.outcome ∧
        ((∀ reply, operation.Answers executor.backends project
            (SourceHandle.ofProject session.nextContext project) (.ok (.outcome reply)) →
          operation.Declares reply) → record.Agrees) ∧
        request.Delivers observation.outcome (request.perform executor project session).1 := by
  have noted := (request.perform_serves executor project session).telemetry
  cases observed : request.observation? executor project session with
  | none => simpa [observed, Executor.notesOf] using noted
  | some observation =>
      simp only [observed, Executor.notesOf, logs, Sink.notes, Option.map_some,
        Option.getD_some] at noted
      have tells : Log.Record.Summarizes
          ⟨.info, event, ("component", .text "telemetry") :: observation.summary⟩
          observation.outcome := ⟨rfl, rfl, rfl, rfl⟩
      refine ⟨_, noted, rfl, tells, fun declared => tells.agrees ?_,
        delivers_observed (fun fault => logs ▸ Sink.not_stops_log event fault) observed⟩
      simp only [observation?, primary, Option.bind_some, Primary.observation?] at observed
      split at observed
      next outcome shaped =>
        obtain rfl := Option.some.inj observed
        exact Primary.producesClean_shaped declared shaped
      next failed => cases observed

end Request

namespace Turn

/-- A request to compile to classes, answered with classes and an error under a name that is no
file's, where telemetry goes to the log. -/
def compilesWithStrayError : Turn where
  executor := { Scripted.executor [("jvm.compile", .ok (.outcome (.compilation
    (.compiled (.classes .empty) (.single "Other.kt" "unresolved reference" .error)))))] with
      sink := .log Sink.logEvent }
  project := .single .java
  request := .primary .compileClasses

/-- Classes that come with an error go to the log as not compiled, with the error. -/
theorem stray_error_summarized :
    ∃ diagnostics : Diagnostics, ∃ record : Log.Record,
      (compilesWithStrayError.perform Session.fresh).1 =
        .ok (.outcome (.compilation (.notCompiled diagnostics))) ∧
      Trace.telemetry (compilesWithStrayError.perform Session.fresh).2.trace =
        [.logged record] ∧
      record.Summarizes (.compilation (.notCompiled diagnostics)) ∧ record.Agrees ∧
      record.value? "errors" = some (.int 1) := by
  obtain ⟨record, noted, _, tells, agrees, _⟩ :=
    @Request.perform_summarized compilesWithStrayError.executor compilesWithStrayError.project
      Session.fresh (.primary .compileClasses) Sink.logEvent rfl .compileClasses rfl
  refine ⟨_, record, rfl, noted, tells, agrees fun reply answered => ?_, tells.errors.trans ?_⟩
  · obtain rfl := Reply.outcome.inj (Except.ok.inj (Operation.ready.inj answered)).symm
    exact ⟨_, rfl, fun artifact diagnostics same =>
      ⟨_, (Compilation.compiled.inj same).1.symm⟩⟩
  · rfl

end Turn

end Multitarget
