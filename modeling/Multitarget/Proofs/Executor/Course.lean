import Multitarget.Proofs.Executor.Request

/-!
# The course of a request

A request uses at most one scratch context, for at most one call, and what it
reports and writes comes after the context. Whether it comes to that, and what
is called and reported, is decided by the request and the session it starts from.
-/

namespace Multitarget

namespace Session

/-- Between two sessions telemetry was noted, and else nothing but writing and records of the
log. -/
def Leaves (reported : List Event) (before after : Session) : Prop :=
  ∃ events, Trace.Outer reported events ∧ after.trace = before.trace ++ events ∧
    after.nextContext = before.nextContext

namespace Leaves

variable {reported more events : List Event} {before between after : Session}

theorem refl (session : Session) : session.Leaves [] session :=
  ⟨[], .nil, by simp, rfl⟩

theorem of_note (session : Session) (outer : Trace.Outer reported events) :
    session.Leaves reported (session.note events) :=
  ⟨events, outer, rfl, rfl⟩

theorem trans (former : before.Leaves reported between) (latter : between.Leaves more after) :
    before.Leaves (reported ++ more) after := by
  obtain ⟨events, outer, noted, contexts⟩ := former
  obtain ⟨others, outerLater, notedLater, contextsLater⟩ := latter
  refine ⟨events ++ others, outer.append outerLater, ?_, contextsLater.trans contexts⟩
  rw [notedLater, noted, List.append_assoc]

/-- Steps that are not reported make a run that is not. -/
theorem trans_quiet (former : before.Leaves [] between) (latter : between.Leaves [] after) :
    before.Leaves [] after :=
  former.trans latter

end Leaves

/-- Between two sessions a request ran: a context was used for the calls, unless there are none,
and what is reported was noted after that. -/
inductive Serves (called : List Call) (reported : List Event) (before after : Session) : Prop where
  | idle (uncalled : called = []) (leaves : before.Leaves reported after)
  | inContext {inner later : List Event} (made : Trace.Inner called inner)
      (outer : Trace.Outer reported later)
      (noted : after.trace = before.trace ++ (Scratch.acquiredEvents before.nextContext ++ inner ++
        Scratch.releasedEvents before.nextContext ++ later))
      (contexts : after.nextContext = before.nextContext + 1)

namespace Serves

variable {called : List Call} {reported more : List Event} {before between after : Session}

/-- What a request leaves behind it belongs to it. -/
theorem extend (serves : before.Serves called reported between)
    (leaves : between.Leaves more after) : before.Serves called (reported ++ more) after := by
  cases serves with
  | idle uncalled former => exact .idle uncalled (former.trans leaves)
  | inContext made outer noted contexts =>
      obtain ⟨events, outerLater, notedLater, contextsLater⟩ := leaves
      refine .inContext made (outer.append outerLater) ?_ (contextsLater.trans contexts)
      rw [notedLater, noted]
      simp

theorem extend_quiet (serves : before.Serves called reported between)
    (leaves : between.Leaves [] after) : before.Serves called reported after := by
  simpa using serves.extend leaves

theorem calls (serves : before.Serves called reported after) :
    Trace.calls after.trace = Trace.calls before.trace ++ called := by
  cases serves with
  | idle uncalled leaves =>
      obtain ⟨events, outer, noted, _⟩ := leaves
      rw [noted, uncalled, Trace.calls_append, outer.calls]
  | inContext made outer noted _ =>
      rw [noted]
      simp only [Trace.calls_append, made.calls, outer.calls]
      simp [Scratch.acquiredEvents, Scratch.releasedEvents, Trace.calls]

theorem telemetry (serves : before.Serves called reported after) :
    Trace.telemetry after.trace = Trace.telemetry before.trace ++ reported := by
  cases serves with
  | idle uncalled leaves =>
      obtain ⟨events, outer, noted, _⟩ := leaves
      rw [noted, Trace.telemetry_append, outer.telemetry]
  | inContext made outer noted _ =>
      rw [noted]
      simp only [Trace.telemetry_append, made.telemetry, outer.telemetry]
      simp [Scratch.acquiredEvents, Scratch.releasedEvents, Trace.telemetry, Event.isTelemetry,
        Log.Record.isTelemetry]

end Serves

theorem Uses.serves {called : List Call} {before after : Session}
    (uses : before.Uses called after) : before.Serves called [] after := by
  obtain ⟨inner, outer, files, rfl, made, plain, _⟩ := uses
  refine .inContext made plain.outer ?_ rfl
  exact List.append_assoc _ _ _

end Session

/-! ## Writing -/

namespace Artifacts

variable (session : Session)

theorem prepareDirectory_leaves (path : FilePath) :
    session.Leaves [] (Action.prepareDirectory path session).2 := by
  rw [Action.prepareDirectory_run]
  exact ⟨[.prepared path], ⟨rfl, by simp [Event.isWriting]⟩, rfl, rfl⟩

theorem storeFile_leaves (path : FilePath) (content : Text.Bytes) :
    session.Leaves [] (Action.storeFile path content session).2 := by
  rw [Action.storeFile_run]
  exact ⟨[.stored path], ⟨rfl, by simp [Event.isWriting]⟩, rfl, rfl⟩

theorem log_leaves {level : Log.Level} {event : String} {fields : List (String × Json.Document)}
    (plain : Log.Record.isTelemetry ⟨level, event, fields⟩ = false) :
    session.Leaves [] (Action.log level event fields session).2 :=
  .of_note session ⟨by simp [Trace.telemetry, Event.isTelemetry, plain],
    by simp [Event.isRecord, plain]⟩

theorem storeAll_leaves (output : FilePath) (entries : List (String × Text.Bytes)) :
    session.Leaves [] (storeAll output entries session).2 := by
  induction entries generalizing session with
  | nil => exact .refl session
  | cons entry rest ih =>
      obtain ⟨artifact, content⟩ := entry
      simp only [storeAll]
      cases resolve output artifact with
      | none => exact .refl session
      | some path =>
          refine bind_related .trans_quiet (prepareDirectory_leaves session _) fun _ prepared _ _ => ?_
          refine bind_related .trans_quiet (storeFile_leaves prepared _ _) fun _ stored _ _ => ?_
          exact bind_related .trans_quiet (ih stored) fun _ last _ _ => .refl last

theorem storeClasses_leaves (files : Keyed Text.Bytes) (output : FilePath) :
    session.Leaves [] (storeClasses files output session).2 := by
  refine bind_related .trans_quiet (prepareDirectory_leaves session _) fun _ prepared _ _ => ?_
  refine bind_related .trans_quiet (storeAll_leaves prepared _ _) fun _ stored _ _ => ?_
  exact bind_related .trans_quiet (log_leaves stored rfl) fun _ last _ _ => .refl last

theorem storeReport_leaves (diagnostics : Diagnostics) (output : FilePath) :
    session.Leaves [] (storeReport diagnostics output session).2 := by
  refine bind_related .trans_quiet (prepareDirectory_leaves session _) fun _ between _ _ => ?_
  refine bind_related .trans_quiet (prepareDirectory_leaves between _) fun _ prepared _ _ => ?_
  refine bind_related .trans_quiet (storeFile_leaves prepared _ _) fun _ stored _ _ => ?_
  exact bind_related .trans_quiet (log_leaves stored rfl) fun _ last _ _ => .refl last

end Artifacts

/-! ## Requests -/

/-- What an operation has to report, which is what it shapes. -/
def Primary.observation? (operation : Primary) (executor : Executor) (project : Project)
    (session : Session) : Option Observation :=
  match (operation.shaped executor project session).1 with
  | .ok outcome => some ⟨outcome, project.target, executor.version.compiler⟩
  | .error _ => none

/-- What a request has to report. -/
def Request.observation? (executor : Executor) (project : Project) (session : Session)
    (request : Request) : Option Observation :=
  request.primary?.bind fun operation => operation.observation? executor project session

namespace Executor

variable (executor : Executor) {session : Session}

/-- What the sink notes of an observation, if there is one. -/
def notesOf (observation : Option Observation) : List Event :=
  (observation.map executor.sink.notes).getD []

theorem callsOf_none : executor.callsOf session none = [] := by
  simp [callsOf]

theorem callsOf_refused {fault : Fault} (call : Option Call)
    (refused : Scratch.acquire executor.scratch session = (.error fault, session)) :
    executor.callsOf session call = [] := by
  simp [callsOf, refused, Except.isOk, Except.toBool]

theorem callsOf_provided (call : Option Call)
    (provided : (Scratch.acquire executor.scratch session).1.isOk = true) :
    executor.callsOf session call = call.toList.filter executor.backends.canTake :=
  if_pos provided

end Executor

namespace Primary

variable (operation : Primary) (executor : Executor) (project : Project) (session : Session)

theorem shaped_serves :
    session.Serves
      (executor.callsOf session (operation.call? project session.nextContext)) []
      (operation.shaped executor project session).2 := by
  by_cases routed : project.target.family = operation.family
  · by_cases noFiles : project.files = []
    · obtain ⟨events, yielded, inner⟩ := shaped_vacant executor routed noFiles
      have uncalled : operation.call? project session.nextContext = none :=
        if_neg fun served => served.2 noFiles
      rw [yielded session, uncalled]
      exact .idle executor.callsOf_none (.of_note session inner.outer)
    · obtain ⟨offered, offers⟩ := operation.exists_offers executor.backends routed
        (SourceHandle.ofProject session.nextContext project)
      rcases shaped_run executor noFiles routed offers with
        ⟨fault, refused, failed⟩ | ⟨provided, after, ran, uses⟩
      · rw [failed]
        exact .idle (executor.callsOf_refused _ refused) (.refl session)
      · have called : operation.call? project session.nextContext =
            operation.callFor project (SourceHandle.ofProject session.nextContext project) :=
          if_pos ⟨routed, noFiles⟩
        rw [ran, called, executor.callsOf_provided _ provided, ← calls_of_offers offers]
        exact uses.serves
  · obtain ⟨events, yielded, inner⟩ := shaped_elsewhere executor routed
    have uncalled : operation.call? project session.nextContext = none :=
      if_neg fun served => routed served.1
    rw [yielded session, uncalled]
    exact .idle executor.callsOf_none (.of_note session inner.outer)

theorem perform_serves :
    session.Serves
      (executor.callsOf session (operation.call? project session.nextContext))
      (executor.notesOf (operation.observation? executor project session))
      (operation.perform executor project session).2 := by
  have served := operation.shaped_serves executor project session
  rcases shaped : operation.shaped executor project session with ⟨fault | outcome, between⟩
  · rw [shaped] at served
    simp only [observation?, shaped, Executor.notesOf, Option.map_none, Option.getD_none]
    rwa [perform_of_shaped_error executor shaped]
  · rw [shaped] at served
    simp only [observation?, shaped, Executor.notesOf, Option.map_some, Option.getD_some]
    obtain ⟨events, outer, taken | ⟨fault, _, raised⟩⟩ := perform_of_shaped_ok executor shaped
    · rw [taken]
      exact served.extend (.of_note between outer)
    · rw [raised]
      exact served.extend (.of_note between outer)

end Primary

namespace Executor

variable (executor : Executor) (project : Project) (session : Session)

/-- What comes of compiled classes is only written, and noted in the log. -/
theorem compile_leaves (output : String) :
    (executor.compileClasses project session).2.Leaves []
      (executor.compile project output session).2 := by
  unfold compile
  rcases came : executor.compileClasses project session with ⟨fault | outcome, shaped⟩
  · rw [bind_of_error came]
    exact .refl shaped
  · rw [bind_of_ok came]
    have reports : ∀ {diagnostics fields},
        shaped.Leaves [] ((do
          let _ ← Artifacts.storeReport diagnostics (FilePath.ofText output)
          Action.log .info "compile_failed" ([("output_dir", .text output),
            ("conf_type", .text project.target.name)] ++ fields)
          return ⟨false⟩ : Action CompileResponse) shaped).2 := by
      intro diagnostics fields
      refine bind_related .trans_quiet (Artifacts.storeReport_leaves shaped _ _)
        fun _ stored _ _ => ?_
      exact bind_related .trans_quiet (Artifacts.log_leaves stored rfl) fun _ last _ _ => .refl last
    rcases outcome with result | ⟨artifact, diagnostics⟩ | diagnostics
    · exact reports
    · cases artifact with
      | script | module => exact .refl shaped
      | classes files =>
          refine bind_related .trans_quiet (.refl shaped) fun classes between _ _ => ?_
          refine bind_related .trans_quiet (Artifacts.storeClasses_leaves between _ _)
            fun _ stored _ _ => ?_
          exact bind_related .trans_quiet (Artifacts.log_leaves stored rfl)
            fun _ last _ _ => .refl last
    · exact reports

/-- What stands in for a result that failed adds at most a record to the log. -/
theorem orElseLogged_leaves {α : Type} (action : Action α) (answer : α) (event : String)
    {fields : List (String × Json.Document)}
    (plain : Log.Record.isTelemetry ⟨.warning, event, fields⟩ = false) :
    (action session).2.Leaves [] (orElseLogged action answer event fields session).2 := by
  unfold orElseLogged
  rw [bind_of_ok (Action.observe_run action session)]
  rcases action session with ⟨fault | value, after⟩
  · by_cases contained : fault.isContained
    · simp only [contained, if_true]
      exact bind_related .trans_quiet (Artifacts.log_leaves after plain) fun _ last _ _ => .refl last
    · simp only [contained]
      exact .refl after
  · exact .refl after

theorem highlight_eq (executor : Executor) (project : Project) :
    executor.highlight project =
      orElseLogged
        (Outcome.diagnostics <$> project.target.highlighted.shaped executor project)
        .empty "highlight_failed" [("project", .text project.describe)] := by
  unfold highlight Target.highlighted
  cases project.target.family with
  | jvm => rfl
  | js | wasm => simp only [Primary.shaped, Functor.map_map]; rfl

theorem highlight_serves :
    session.Serves
      (executor.callsOf session (project.target.highlighted.call? project session.nextContext)) []
      (executor.highlight project session).2 := by
  have served := project.target.highlighted.shaped_serves executor project session
  rw [highlight_eq]
  refine Session.Serves.extend_quiet ?_ (orElseLogged_leaves session _ _ _ rfl)
  rwa [map_run]

/-- Asks for proposals inside a context. -/
def proposals (line column : Int) (context : ContextId) : Action Reply :=
  match SourceHandle.ofProject context project with
  | [] => do
    Action.log .debug "completion_skipped" [("reason", .text "no files"),
      ("project", .text project.describe)]
    return .proposals []
  | file :: _ =>
    if file.containsPosition line column then
      Translation.call (.complete file line column project.target context)
        (executor.backends.complete.map fun call =>
          call file line column project.target context)
    else Action.fail (.completionPosition file.name line column)

theorem complete_eq (line column : Int) :
    executor.complete project line column =
      orElseLogged
        (Scratch.within executor.scratch (executor.proposals project line column))
        (.proposals []) "completion_failed"
        [("project", .text project.describe), ("line", .int line), ("character", .int column)] :=
  rfl

theorem proposals_makes (line column : Int) (context : ContextId) :
    ∃ ending, (executor.proposals project line column context).Makes ending
      (((Request.complete line column).call? project context).toList.filter
        executor.backends.canTake) := by
  unfold proposals Request.call?
  cases SourceHandle.ofProject context project with
  | nil => exact ⟨_, (Action.makes_log _ _ _ rfl).bind_ok (Action.makes_pure _)⟩
  | cons file rest =>
      by_cases inside : file.containsPosition line column
      · have called := Translation.call_makes (.complete file line column project.target context)
          (executor.backends.complete.map fun call =>
            call file line column project.target context)
        rw [@Operation.calls_map _ _ executor.backends _ _ _ rfl] at called
        simp only [if_pos inside, Option.toList_some]
        exact ⟨_, called⟩
      · simp only [if_neg inside]
        exact ⟨_, Action.makes_throw _⟩

theorem complete_serves (line column : Int) :
    session.Serves
      (executor.callsOf session ((Request.complete line column).call? project session.nextContext))
      [] (executor.complete project line column session).2 := by
  rw [complete_eq]
  refine Session.Serves.extend_quiet ?_ (orElseLogged_leaves session _ _ _ rfl)
  obtain ⟨ending, made⟩ :=
    executor.proposals_makes project line column session.nextContext
  rcases Scratch.within_makes executor.scratch made with
    ⟨fault, refused, failed⟩ | ⟨provided, after, ran, uses⟩
  · rw [failed]
    exact .idle (executor.callsOf_refused _ refused) (.refl session)
  · rw [ran, executor.callsOf_provided _ provided]
    exact uses.serves

end Executor

/-- A request makes the call it is answered by, if there is a context for it and something to be
called, and reports what it has to report. -/
theorem Request.perform_serves (executor : Executor) (project : Project) (session : Session)
    (request : Request) :
    session.Serves (executor.callsOf session (request.call? project session.nextContext))
      (executor.notesOf (request.observation? executor project session))
      (request.perform executor project session).2 := by
  cases request with
  | primary operation =>
      rw [perform, map_run]
      exact operation.perform_serves executor project session
  | compile output =>
      rw [perform, map_run]
      exact (Primary.compileClasses.perform_serves executor project session).extend_quiet
        (executor.compile_leaves project session output)
  | complete line column =>
      rw [perform, map_run]
      exact executor.complete_serves project session line column
  | highlight =>
      rw [perform, map_run]
      exact executor.highlight_serves project session

end Multitarget
