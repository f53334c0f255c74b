import Multitarget.Executor.Scripted
import Multitarget.Proofs.Domain.Shaping
import Multitarget.Proofs.Executor.Answer

/-!
# Verdicts

The errors of a backend's reply, under whatever names, reach the caller of a primary
operation once each and make what comes of it a failure. A translation is judged by
its diagnostics alone: whether the backend called it compiled decides about the
payload, and the errors decide about the status.
-/

namespace Multitarget

/-! ## Failures -/

namespace Outcome

/-- Whether an outcome tells its caller that the project did not compile. -/
def IsFailure : Outcome → Prop
  | .execution result => result.status = .notCompiled
  | .compilation result => ∃ diagnostics, result = .notCompiled diagnostics

theorem isFailure_execution {result : Execution} (errors : result.diagnostics.hasErrors = true) :
    IsFailure (.execution result) := by
  simp [IsFailure, Execution.status, errors]

theorem diagnostics_shapeCompilation (outcome : Outcome) (project : Project) :
    (outcome.shapeCompilation project).diagnostics = outcome.diagnostics.forProject project := by
  rcases outcome with result | ⟨artifact, diagnostics⟩ | diagnostics
  · simp only [shapeCompilation]
    split
    next own => simp [Outcome.diagnostics, Diagnostics.forProject, own]
    next foreign => rfl
  · change ((Compilation.compiled artifact diagnostics).shape project).diagnostics = _
    unfold Compilation.shape
    by_cases errors : (diagnostics.forProject project).hasErrors <;>
      simp [Compilation.diagnostics, Outcome.diagnostics, errors]
  · rfl

/-- A shaped compilation with errors is a failure. -/
theorem isFailure_shapeCompilation {outcome : Outcome} {project : Project}
    (errors : (outcome.diagnostics.forProject project).hasErrors = true) :
    (outcome.shapeCompilation project).IsFailure := by
  rcases outcome with result | ⟨artifact, diagnostics⟩ | diagnostics
  · simp only [shapeCompilation]
    split
    next own =>
      apply isFailure_execution
      simpa [Outcome.diagnostics, Diagnostics.forProject, own] using errors
    next foreign => exact ⟨_, rfl⟩
  · have demoted : (Compilation.compiled artifact diagnostics).shape project =
        .notCompiled (diagnostics.forProject project) := by
      have found : (diagnostics.forProject project).hasErrors = true := errors
      simp [Compilation.shape, Compilation.diagnostics, found]
    exact ⟨_, demoted⟩
  · exact ⟨_, rfl⟩

end Outcome

/-! ## Scripted runs -/

/-- A session with nothing but a directory for scratch contexts. -/
def Session.fresh : Session where
  files := FileTree.empty.put ["tmp"] .directory
  working := []
  temporary := ⟨"/", ["tmp"]⟩
  version := none
  nextContext := 0
  trace := []

/-- An executor whose backends give prepared answers and which reports to nobody. -/
def Scripted.executor (replies : Replies) : Executor where
  backends := backends (fun name => .mk "LookupError" (.ordinary name) none none false) replies
  version := ⟨"2.0.0", "1.0.0"⟩
  scratch := ⟨none, none⟩
  sink := .none

/-- A project of one empty file. -/
def Project.single (target : Target) : Project where
  arguments := ""
  files := [⟨"File.kt", ""⟩]
  target := target
  addClasspath := false
  distinct := by simp

/-- One diagnostic under one name. -/
def Diagnostics.single (name message : String) (severity : Severity) : Diagnostics :=
  ⟨Keyed.ofList [(name, [⟨none, message, severity, none⟩])]⟩

/-- An execution with an error under a name that is no file's. -/
def Outcome.withStrayError : Outcome :=
  .execution { Execution.empty .none with
    diagnostics := .single "Other.kt" "unresolved reference" .error }

/-! ## Replies -/

/-- A translator makes a result with the diagnostics of an outcome. -/
theorem Translator.diagnostics_translated {translator : Translator} {reply : Outcome}
    {result : Execution} (came : translator.translated reply = .ok result) :
    result.diagnostics = reply.diagnostics := by
  rcases reply with execution | ⟨artifact, diagnostics⟩ | diagnostics
  · obtain rfl := Except.ok.inj came
    rfl
  · simp only [translated] at came
    cases held : translator.payload artifact with
    | error fault => simp [held, bind, Except.bind] at came
    | ok payload =>
        simp only [held, bind, Except.bind, pure, Except.pure, Except.ok.injEq] at came
        exact came ▸ rfl
  · obtain rfl := Except.ok.inj came
    rfl

/-- A translator makes a result of every outcome that it is to be given. -/
theorem Translator.exists_translated {translator : Translator} {reply : Outcome}
    (declared : (Primary.translate translator).Declares reply) :
    ∃ result, translator.translated reply = .ok result := by
  obtain ⟨compilation, rfl, produces⟩ := declared
  cases compilation with
  | notCompiled diagnostics => exact ⟨_, rfl⟩
  | compiled artifact diagnostics =>
      have produced := produces artifact diagnostics rfl
      cases translator with
      | js =>
          obtain ⟨code, rfl⟩ := produced
          exact ⟨_, rfl⟩
      | wasm debugInfo =>
          obtain ⟨parts, rfl⟩ := produced
          exact ⟨_, rfl⟩

/-- What comes of a reply has its diagnostics, shaped, and is a failure if there are errors. -/
theorem Primary.ending_of_declares {operation : Primary} {reply : Outcome} (project : Project)
    (declared : operation.Declares reply) :
    ∃ outcome, operation.ending project (.ready (.ok (.outcome reply))) = .ok outcome ∧
      outcome.diagnostics = reply.diagnostics.forProject project ∧
      ((reply.diagnostics.forProject project).hasErrors = true → outcome.IsFailure) := by
  cases operation with
  | run | test =>
      obtain ⟨result, rfl⟩ := declared
      exact ⟨_, rfl, rfl, @Outcome.isFailure_execution (result.shape project)⟩
  | compileClasses =>
      exact ⟨_, rfl, reply.diagnostics_shapeCompilation project,
        Outcome.isFailure_shapeCompilation⟩
  | translate translator =>
      obtain ⟨result, came⟩ := Translator.exists_translated declared
      have kept : (result.shape project).diagnostics = reply.diagnostics.forProject project := by
        rw [← Translator.diagnostics_translated came]
        rfl
      refine ⟨.execution (result.shape project), ?_, kept, fun errors => ?_⟩
      · simp [ending, Translator.ending, Reply.asOutcome, bind, Except.bind, pure, Except.pure,
          came]
      · exact Outcome.isFailure_execution (kept ▸ errors)

/-- Errors fail an operation, whatever names they are reported under: what comes of it has every
error of the reply once, and only names of the project's files. -/
theorem Primary.perform_verdict (operation : Primary) (executor : Executor) {project : Project}
    {session : Session} {reply : Outcome} (hasFiles : project.files ≠ [])
    (routed : project.target.family = operation.family) (declared : operation.Declares reply)
    (answered : operation.Answers executor.backends project
      (SourceHandle.ofProject session.nextContext project) (.ok (.outcome reply))) :
    match operation.perform executor project session with
    | (.ok outcome, _) =>
        (reply.diagnostics.hasErrors = true → outcome.IsFailure) ∧
        outcome.diagnostics.errors.Perm reply.diagnostics.errors ∧
        ∀ name ∈ outcome.diagnostics.byFile.keys, project.fileNames.count name = 1
    | (.error fault, _) => executor.Interrupted session fault := by
  obtain ⟨outcome, came, kept, fails⟩ := ending_of_declares project declared
  have perm := reply.diagnostics.errors_forProject_perm hasFiles
  obtain ⟨ending, after, ran, rfl | ⟨fault, interrupted, rfl⟩⟩ :=
    perform_run executor hasFiles routed answered
  · rw [ran, came]
    refine ⟨fun errors => fails ?_, kept ▸ perm, fun name present => ?_⟩
    · rwa [Diagnostics.hasErrors_eq_of_perm perm]
    · rw [kept] at present
      exact reply.diagnostics.count_fileNames_of_mem_forProject project present
  · rw [ran]
    exact interrupted

/-- An error under a name that is no file's still fails a run, under the file's name. -/
theorem run_fails_with_stray_error :
    ∃ outcome final,
      (Primary.run false).perform
        (Scripted.executor [("jvm.run", .ok (.outcome .withStrayError))])
        (Project.single .java) Session.fresh = (.ok outcome, final) ∧
      outcome.IsFailure ∧
      outcome.diagnostics.errors.Perm [⟨none, "unresolved reference", .error, none⟩] ∧
      ∀ name ∈ outcome.diagnostics.byFile.keys,
        (Project.single .java).fileNames.count name = 1 := by
  refine ⟨_, _, rfl, ?_⟩
  obtain ⟨fails, kept, named⟩ := @Primary.perform_verdict (.run false)
    (Scripted.executor [("jvm.run", .ok (.outcome .withStrayError))])
    (Project.single .java) Session.fresh _ (by simp [Project.single]) rfl ⟨_, rfl⟩ rfl
  exact ⟨fails rfl, kept, named⟩

/-! ## Translations -/

/-- Whether a payload holds some part of a translation. -/
def Payload.isTranslated : Payload → Bool
  | .script code => code.isSome
  | .module code instantiation binary textForm =>
      code.isSome || instantiation.isSome || binary.isSome || textForm.isSome
  | _ => false

namespace Execution

theorem status_ne_compiled_iff {result : Execution} (unharmed : result.exception = none) :
    result.status ≠ .compiled ↔ result.diagnostics.hasErrors = true := by
  unfold status
  cases errors : result.diagnostics.hasErrors <;> simp [unharmed]

end Execution

namespace Translator

variable {translator : Translator} {executor : Executor} {project : Project}
  {session after : Session}

@[simp] theorem isTranslated_missing (translator : Translator) :
    translator.missing.isTranslated = false := by
  cases translator <;> rfl

theorem isTranslated_payload {artifact : Artifact} {payload : Payload}
    (held : translator.payload artifact = .ok payload) : payload.isTranslated = true := by
  cases translator <;> cases artifact <;> simp [Translator.payload] at held <;> subst held <;> rfl

/-- Only what a backend calls compiled gives a payload, whatever else it reports. -/
theorem isTranslated_ending {offered : Operation (Answer Reply)} {result : Execution}
    (came : translator.ending offered = .ok result) :
    (result.payload.isTranslated = false ∧ ∀ artifact diagnostics,
      offered ≠ .ready (.ok (.outcome (.compilation (.compiled artifact diagnostics))))) ∨
    (result.payload.isTranslated = true ∧ result.exception = none ∧ ∃ artifact, offered =
      .ready (.ok (.outcome (.compilation (.compiled artifact result.diagnostics))))) := by
  -- Neither a raised exception nor a failed look-up of the operation gives a payload.
  have described : ∀ exception, translator.contained exception = .ok result →
      result.payload.isTranslated = false := by
    intro exception came
    unfold contained at came
    split at came
    next isFault =>
      obtain rfl := Except.ok.inj came
      exact translator.isTranslated_missing
    next stop => simp at came
  rcases offered with (exception | (reply | proposals)) | exception | exception
  · exact .inl ⟨described exception came, by simp⟩
  · rcases reply with execution | ⟨artifact, diagnostics⟩ | diagnostics
    · obtain rfl := Except.ok.inj came
      exact .inl ⟨translator.isTranslated_missing, by simp⟩
    · right
      simp only [ending, Reply.asOutcome, translated, bind, Except.bind] at came
      cases held : translator.payload artifact with
      | error fault => simp [held] at came
      | ok payload =>
          simp only [held, pure, Except.pure, Except.ok.injEq] at came
          subst came
          exact ⟨isTranslated_payload held, rfl, artifact, rfl⟩
    · obtain rfl := Except.ok.inj came
      exact .inl ⟨translator.isTranslated_missing, by simp⟩
  · simp [ending, Reply.asOutcome, bind, Except.bind] at came
  · simp [ending] at came
  · exact .inl ⟨described exception came, by simp⟩

theorem perform_translate (ending : Except Fault Execution)
    (ran : translator.translate executor project session = (ending, after)) :
    (Primary.translate translator).perform executor project session =
      (ending.map .execution, after) := by
  rw [Primary.perform, map_run, ran]

/-- A translation that gives a result gives the one for no files, or the shaped one of what the
translator makes of its backend. -/
theorem of_translate_ok {result : Execution}
    (ran : translator.translate executor project session = (.ok result, after)) :
    project.files = [] ∧ result = .empty translator.missing ∨
    project.files ≠ [] ∧ ∃ offered made,
      translator.Offers executor.backends project
        (SourceHandle.ofProject session.nextContext project) offered ∧
      translator.ending offered = .ok made ∧ result = made.shape project := by
  obtain ⟨_, _, ⟨noFiles, same⟩ | ⟨hasFiles, offered, offers, came⟩⟩ :=
    Primary.of_perform_ok executor (perform_translate (.ok result) ran)
  · simp only [Primary.vacant, Outcome.execution.injEq] at same
    exact .inl ⟨noFiles, same⟩
  · right
    simp only [Primary.ending, bind, Except.bind] at came
    cases made : translator.ending offered with
    | error fault => simp [made] at came
    | ok raw =>
        simp only [made, pure, Except.pure, Except.ok.injEq, Outcome.execution.injEq] at came
        exact ⟨hasFiles, offered, raw, offers, made, came.symm⟩

/-- What a backend calls not compiled counts as compiled all the same, unless there are errors:
the status is read from the diagnostics alone. -/
theorem status_of_notCompiled (translator : Translator) (executor : Executor) {project : Project}
    {session : Session} {diagnostics : Diagnostics} (hasFiles : project.files ≠ [])
    (routed : project.target.family = translator.family)
    (answered : (Primary.translate translator).Answers executor.backends project
      (SourceHandle.ofProject session.nextContext project)
      (.ok (.outcome (.compilation (.notCompiled diagnostics))))) :
    match translator.translate executor project session with
    | (.ok result, _) =>
        result.status = (if diagnostics.hasErrors then .notCompiled else .compiled) ∧
        result.succeeded = !diagnostics.hasErrors
    | (.error fault, _) => executor.Interrupted session fault := by
  have perm := diagnostics.errors_forProject_perm hasFiles
  rcases ran : translator.translate executor project session with ⟨fault | result, after⟩
  · have served : project.target.family = (Primary.translate translator).family := routed
    obtain ⟨ending, _, performed, rfl | ⟨other, interrupted, rfl⟩⟩ :=
      Primary.perform_run executor hasFiles served answered
    · simp [perform_translate _ ran, Except.map, Primary.ending, ending, Reply.asOutcome,
        translated, bind, Except.bind, pure, Except.pure] at performed
    · rw [perform_translate _ ran, ended_inj] at performed
      obtain rfl := Except.error.inj performed.1
      exact interrupted
  · rcases of_translate_ok ran with ⟨noFiles, _⟩ | ⟨_, offered, made, offers, came, rfl⟩
    · exact absurd noFiles hasFiles
    · obtain rfl := Primary.Offers.unique answered offers
      obtain rfl := Except.ok.inj came
      have judged := Diagnostics.hasErrors_eq_of_perm perm
      cases errors : diagnostics.hasErrors <;>
        simp [Execution.succeeded, Execution.status, Execution.shape, Execution.empty,
          Outcome.diagnostics, Compilation.diagnostics, judged, errors]

/-- A translation that its backend calls not compiled, without an error, counts as compiled. -/
theorem notCompiled_counts_as_compiled :
    ∃ result final,
      js.translate
        (Scripted.executor [("js", .ok (.outcome (.compilation (.notCompiled .empty))))])
        (Project.single .js) Session.fresh = (.ok result, final) ∧
      result.status = .compiled ∧ result.succeeded = true := by
  refine ⟨_, _, rfl, ?_⟩
  exact @status_of_notCompiled .js
    (Scripted.executor [("js", .ok (.outcome (.compilation (.notCompiled .empty))))])
    (Project.single .js) Session.fresh .empty (by simp [Project.single]) rfl rfl

/-- A result holds a translation without having the status of a compiled one exactly if a backend
calls the project compiled and reports an error. -/
theorem translated_not_compiled_iff {result : Execution}
    (ran : translator.translate executor project session = (.ok result, after)) :
    (result.payload.isTranslated = true ∧ result.status ≠ .compiled) ↔
      project.files ≠ [] ∧ ∃ artifact diagnostics,
        (Primary.translate translator).Answers executor.backends project
          (SourceHandle.ofProject session.nextContext project)
          (.ok (.outcome (.compilation (.compiled artifact diagnostics)))) ∧
        diagnostics.hasErrors = true := by
  rcases of_translate_ok ran with ⟨noFiles, rfl⟩ | ⟨hasFiles, offered, made, offers, came, rfl⟩
  · simp [noFiles, Execution.empty]
  · have judged := Diagnostics.hasErrors_eq_of_perm
      (made.diagnostics.errors_forProject_perm hasFiles)
    rcases isTranslated_ending came with
      ⟨untranslated, never⟩ | ⟨isTranslated, unharmed, artifact, rfl⟩
    · constructor
      · rintro ⟨isTranslated, _⟩
        simp [Execution.shape, untranslated] at isTranslated
      · rintro ⟨_, artifact, diagnostics, answered, _⟩
        exact absurd (Primary.Offers.unique answered offers).symm (never artifact diagnostics)
    · have status :
          (made.shape project).status ≠ .compiled ↔ made.diagnostics.hasErrors = true := by
        rw [← judged]
        exact @Execution.status_ne_compiled_iff (made.shape project) unharmed
      rw [status]
      constructor
      · rintro ⟨_, errors⟩
        exact ⟨hasFiles, artifact, made.diagnostics, offers, errors⟩
      · rintro ⟨_, other, diagnostics, answered, errors⟩
        have same := Primary.Offers.unique answered offers
        simp only [Operation.ready.injEq, Except.ok.injEq, Reply.outcome.injEq,
          Outcome.compilation.injEq, Compilation.compiled.injEq] at same
        exact ⟨isTranslated, same.2 ▸ errors⟩

/-- A script that was produced with an error stays, in a result that is not compiled. -/
theorem script_kept_with_error :
    ∃ result final,
      js.translate (Scripted.executor [("js", .ok (.outcome (.compilation (.compiled
          (.script "main();") (.single "File.kt" "unresolved reference" .error)))))])
        (Project.single .js) Session.fresh = (.ok result, final) ∧
      result.payload.isTranslated = true ∧ result.status ≠ .compiled := by
  refine ⟨_, _, rfl, ?_⟩
  refine (@translated_not_compiled_iff .js (Scripted.executor [("js", .ok (.outcome (.compilation
    (.compiled (.script "main();") (.single "File.kt" "unresolved reference" .error)))))])
    (Project.single .js) Session.fresh _ _ rfl).mpr ⟨by simp [Project.single], ?_⟩
  exact ⟨.script "main();", .single "File.kt" "unresolved reference" .error, rfl, rfl⟩

end Translator

end Multitarget
