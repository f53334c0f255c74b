import Mathlib.Data.List.Forall2
import Multitarget.Proofs.Executor.Course
import Multitarget.Proofs.Executor.Verdict
import Multitarget.Proofs.Session.Agreement

/-!
# What is reported, and what reporting changes

The sink gets each shaped result of a primary operation once and nothing else. Apart from
that it is never heard: in place of one sink another can stand that fails, and every
request ends as before, with the same calls and files.
-/

namespace Multitarget

/-! ## Requests in a row -/

namespace Turn

/-- What a turn has to report. -/
def observation? (turn : Turn) (session : Session) : Option Observation :=
  turn.request.observation? turn.executor turn.project session

/-- What the sinks of requests in a row note of what there is to report. -/
def reports : List Turn → Session → List Event
  | [], _ => []
  | turn :: rest, session =>
      turn.executor.notesOf (turn.observation? session) ++ reports rest (turn.perform session).2

theorem telemetry_performAll (turns : List Turn) (session : Session) :
    Trace.telemetry (performAll turns session).2.trace =
      Trace.telemetry session.trace ++ reports turns session := by
  induction turns generalizing session with
  | nil => simp [reports]
  | cons turn rest ih =>
      have served := turn.request.perform_serves turn.executor turn.project session
      have once : Trace.telemetry (turn.perform session).2.trace =
          Trace.telemetry session.trace ++ turn.executor.notesOf (turn.observation? session) :=
        served.telemetry
      rw [performAll_cons, ih, once, reports, List.append_assoc]

/-- What is given back by a primary operation is what was reported. -/
theorem observation?_of_perform {turn : Turn} {operation : Primary} {session : Session}
    {outcome : Outcome} (primary : turn.request = .primary operation)
    (given : (turn.perform session).1 = .ok (.outcome outcome)) :
    turn.observation? session =
      some ⟨outcome, turn.project.target, turn.executor.version.compiler⟩ := by
  obtain ⟨executor, project, request⟩ := turn
  obtain rfl : request = .primary operation := primary
  simp only [perform, Request.perform, map_run] at given
  simp only [observation?, Request.observation?, Request.primary?, Option.bind_some,
    Primary.observation?]
  rcases shaped : operation.shaped executor project session with ⟨fault | own, between⟩
  · rw [Primary.perform_of_shaped_error executor shaped] at given
    simp [Except.map] at given
  · obtain ⟨events, _, taken | ⟨fault, _, raised⟩⟩ :=
      Primary.perform_of_shaped_ok executor shaped
    · rw [taken] at given
      simp only [Except.map, Except.ok.injEq, Response.outcome.injEq] at given
      rw [given]
    · rw [raised] at given
      simp [Except.map] at given

end Turn

/-! ## Writing -/

namespace Artifacts

theorem agree_storeAll (output : FilePath) (entries : List (String × Text.Bytes)) :
    (storeAll output entries).Agree (storeAll output entries) := by
  induction entries with
  | nil => exact Action.agree_pure []
  | cons entry rest ih =>
      obtain ⟨artifact, content⟩ := entry
      simp only [storeAll]
      cases resolve output artifact with
      | none => exact Action.agree_throw _
      | some path =>
          refine (Action.agree_prepareDirectory _).bind fun _ => ?_
          refine (Action.agree_storeFile _ _).bind fun _ => ?_
          exact ih.bind fun written => Action.agree_pure _

theorem agree_storeClasses (files : Keyed Text.Bytes) (output : FilePath) :
    (storeClasses files output).Agree (storeClasses files output) := by
  refine (Action.agree_prepareDirectory _).bind fun _ => ?_
  refine (agree_storeAll _ _).bind fun written => ?_
  exact (Action.agree_log _ _ _).bind fun _ => Action.agree_pure _

theorem agree_storeReport (diagnostics : Diagnostics) (output : FilePath) :
    (storeReport diagnostics output).Agree (storeReport diagnostics output) := by
  refine (Action.agree_prepareDirectory _).bind fun _ => ?_
  refine (Action.agree_prepareDirectory _).bind fun _ => ?_
  refine (Action.agree_storeFile _ _).bind fun _ => ?_
  exact (Action.agree_log _ _ _).bind fun _ => Action.agree_pure _

end Artifacts

/-! ## Operations -/

namespace Executor

variable {α β : Type} (executor : Executor) (project : Project)

theorem agree_serve (family : Family) (vacant : α) {call : List SourceHandle → Action β}
    {finish : β → Action α} (calls : ∀ files, (call files).Agree (call files))
    (finishes : ∀ value, (finish value).Agree (finish value)) :
    (executor.serve project family vacant call finish).Agree
      (executor.serve project family vacant call finish) := by
  have expects : (expect project family).Agree (expect project family) := by
    by_cases routed : project.target.family = family
    · exact (expect_makes routed).agree
    · exact (expect_refuses routed).agree
  refine expects.bind fun _ => ?_
  by_cases vacantProject : project.files.isEmpty
  · simp only [vacantProject, if_true]
    exact Action.agree_pure vacant
  · simp only [vacantProject]
    refine Action.Agree.bind (Scratch.agree_within _ fun context => ?_) finishes
    exact (Action.agree_log _ _ _).bind fun _ => calls _

theorem agree_orElseLogged {action other : Action α} (agree : action.Agree other) (answer : α)
    (event : String) (fields : List (String × Json.Document)) :
    (orElseLogged action answer event fields).Agree (orElseLogged other answer event fields) := by
  refine agree.observe.bind fun ending => ?_
  cases ending with
  | ok value => exact Action.agree_pure value
  | error fault =>
      by_cases contained : fault.isContained
      · simp only [contained, if_true]
        exact (Action.agree_log _ _ _).bind fun _ => Action.agree_pure answer
      · simp only [contained]
        exact Action.agree_throw fault

end Executor

namespace Primary

variable (operation : Primary) (executor : Executor) (project : Project)

/-- Shaping does not look at the sink. -/
theorem shaped_sink (sink : Sink) :
    operation.shaped { executor with sink } project = operation.shaped executor project := by
  cases operation with
  | run | test | compileClasses => rfl
  | translate translator => cases translator <;> rfl

theorem agree_shaped :
    (operation.shaped executor project).Agree (operation.shaped executor project) := by
  by_cases routed : project.target.family = operation.family
  · cases operation with
    | run addByteCode =>
        exact executor.agree_serve project _ _ (fun _ => (Translation.call_makes _ _).agree)
          fun reply => (Executor.finish_makes (Executor.shapeOutcome_makes project) reply).agree
    | test addByteCode =>
        exact executor.agree_serve project _ _ (fun _ => (Translation.call_makes _ _).agree)
          fun reply => (Executor.finish_makes (Executor.shapeOutcome_makes project) reply).agree
    | compileClasses =>
        exact executor.agree_serve project _ _ (fun _ => (Translation.call_makes _ _).agree)
          fun reply => (Executor.finish_makes (Executor.shapeCompilation_makes project) reply).agree
    | translate translator =>
        rw [shaped, Translator.shaped_eq]
        refine Action.Agree.map _ (executor.agree_serve project _ _ (fun files => ?_)
          fun result => (Executor.shapeExecution_makes project result).agree)
        obtain ⟨offered, offers⟩ :=
          (Primary.translate translator).exists_offers executor.backends routed files
        exact (Translator.call_makes offers).agree
  · exact (shaped_elsewhere executor routed).agree

theorem agree_perform {sink : Sink}
    (halts : ∀ observation, sink.halt? observation = executor.sink.halt? observation) :
    (operation.perform executor project).Agree
      (operation.perform { executor with sink } project) := by
  rw [perform_eq, perform_eq, shaped_sink]
  refine (operation.agree_shaped executor project).bind fun outcome => ?_
  refine Action.Agree.bind ?_ fun _ => Action.agree_pure outcome
  obtain ⟨events, outer, reported⟩ :=
    executor.sink.report_yields ⟨outcome, project.target, executor.version.compiler⟩
  obtain ⟨others, outerOther, reportedOther⟩ :=
    sink.report_yields ⟨outcome, project.target, executor.version.compiler⟩
  rw [halts] at reportedOther
  exact reported.agree reportedOther (outerOther.calls.trans outer.calls.symm)

end Primary

namespace Executor

variable (executor : Executor) (project : Project)

theorem agree_classFiles (artifact : Artifact) :
    (classFiles artifact).Agree (classFiles artifact) := by
  cases artifact with
  | classes files => exact Action.agree_pure files
  | script | module => exact Action.agree_throw _

theorem agree_compile {sink : Sink} (output : String)
    (halts : ∀ observation, sink.halt? observation = executor.sink.halt? observation) :
    (executor.compile project output).Agree ({ executor with sink }.compile project output) := by
  have compiles : (executor.compileClasses project).Agree
      ({ executor with sink }.compileClasses project) :=
    Primary.compileClasses.agree_perform executor project halts
  refine compiles.bind fun outcome => ?_
  rcases outcome with result | ⟨artifact, diagnostics⟩ | diagnostics
  · refine (Artifacts.agree_storeReport _ _).bind fun _ => ?_
    exact (Action.agree_log _ _ _).bind fun _ => Action.agree_pure _
  · refine (agree_classFiles artifact).bind fun classes => ?_
    refine (Artifacts.agree_storeClasses _ _).bind fun _ => ?_
    exact (Action.agree_log _ _ _).bind fun _ => Action.agree_pure _
  · refine (Artifacts.agree_storeReport _ _).bind fun _ => ?_
    exact (Action.agree_log _ _ _).bind fun _ => Action.agree_pure _

theorem agree_highlight :
    (executor.highlight project).Agree (executor.highlight project) := by
  rw [highlight_eq]
  exact agree_orElseLogged ((Primary.agree_shaped _ executor project).map _) _ _ _

theorem agree_complete (line column : Int) :
    (executor.complete project line column).Agree (executor.complete project line column) := by
  rw [complete_eq]
  refine agree_orElseLogged (Scratch.agree_within _ fun context => ?_) _ _ _
  obtain ⟨ending, made⟩ := executor.proposals_makes project line column context
  exact made.agree

end Executor

namespace Turn

/-- Two turns differ in nothing but the sink, and their sinks ask to stop at the same
observations. -/
structure SameButSink (turn other : Turn) : Prop where
  executor : other.executor = { turn.executor with sink := other.executor.sink }
  project : other.project = turn.project
  request : other.request = turn.request
  halts : ∀ observation,
    other.executor.sink.halt? observation = turn.executor.sink.halt? observation

theorem SameButSink.agree {turn other : Turn} (same : turn.SameButSink other) :
    turn.perform.Agree other.perform := by
  obtain ⟨executor, _, _⟩ := turn
  obtain ⟨twin, project, request⟩ := other
  obtain ⟨sameExecutor, rfl, rfl, halts⟩ := same
  simp only at sameExecutor halts
  rw [sameExecutor]
  cases request with
  | primary operation => exact (operation.agree_perform executor project halts).map _
  | compile output => exact (executor.agree_compile project output halts).map _
  | complete line column => exact (executor.agree_complete project line column).map _
  | highlight => exact (executor.agree_highlight project).map _

theorem agree_performAll {turns others : List Turn}
    (same : List.Forall₂ SameButSink turns others) :
    (performAll turns).Agree (performAll others) := by
  induction same with
  | nil => exact Action.agree_pure []
  | cons first _ ih =>
      refine first.agree.observe.bind fun ending => ?_
      exact ih.bind fun endings => Action.agree_pure _

/-- The sink gets what there is to report of each request, once and in order; what an operation
gives back was reported. With other sinks in place, which may raise exceptions at anything but
must not ask to stop elsewhere, all requests end the same way, with the same calls and files. -/
theorem performAll_reports (turns : List Turn) (session : Session) :
    Trace.telemetry (performAll turns session).2.trace =
      Trace.telemetry session.trace ++ reports turns session ∧
    (∀ turn ∈ turns, ∀ state operation outcome, turn.request = .primary operation →
      (turn.perform state).1 = .ok (.outcome outcome) →
        turn.observation? state =
          some ⟨outcome, turn.project.target, turn.executor.version.compiler⟩) ∧
    ∀ others, List.Forall₂ SameButSink turns others →
      (performAll others session).1 = (performAll turns session).1 ∧
      Trace.calls (performAll others session).2.trace =
        Trace.calls (performAll turns session).2.trace ∧
      (performAll others session).2.files = (performAll turns session).2.files := by
  refine ⟨telemetry_performAll turns session, ?_, ?_⟩
  · intro turn _ state operation outcome primary given
    exact observation?_of_perform primary given
  · intro others same
    obtain ⟨ending, agrees⟩ := agree_performAll same session session (.refl session)
    exact ⟨ending, agrees.calls_eq, agrees.files_eq⟩

/-- A sink that fails at all it gets. -/
def failing : Sink :=
  .observer "failing" fun _ => some (.mk "SinkError" (.ordinary "out of reach") none none false)

/-- A request to run a project, with an answer to it. -/
def answered (sink : Sink) : Turn where
  executor := { Scripted.executor [("jvm.run", .ok (.outcome .withStrayError))] with sink }
  project := .single .java
  request := .primary (.run false)

/-- A sink that fails gets the result, and is not heard in place of one that does nothing. -/
theorem failing_unheard :
    List.Forall₂ SameButSink [answered .none] [answered failing] ∧
    (performAll [answered failing] Session.fresh).1 =
      (performAll [answered .none] Session.fresh).1 ∧
    (∃ outcome, ((answered failing).perform Session.fresh).1 = .ok (.outcome outcome) ∧
      (answered failing).observation? Session.fresh =
        some ⟨outcome, .java, (answered failing).executor.version.compiler⟩) ∧
    (Trace.telemetry (performAll [answered failing] Session.fresh).2.trace).length = 1 := by
  have same : List.Forall₂ SameButSink [answered .none] [answered failing] :=
    .cons ⟨rfl, rfl, rfl, fun _ => rfl⟩ .nil
  obtain ⟨_, _, unheard⟩ := performAll_reports [answered .none] Session.fresh
  obtain ⟨_, given, _⟩ := performAll_reports [answered failing] Session.fresh
  refine ⟨same, (unheard _ same).1, ⟨_, rfl, ?_⟩, by decide +kernel⟩
  exact given _ List.mem_cons_self _ (.run false) _ rfl rfl

end Turn

end Multitarget
