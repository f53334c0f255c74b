import Multitarget.Proofs.Executor.Containment

/-!
# Highlighting

The diagnostics of a project alone, for an editor, are those of the primary operation that
compiles or translates it. Both make of the same behaviour of a backend the same diagnostics,
and where the primary operation fails, highlighting answers with none.
-/

namespace Multitarget

/-- Whether nothing that comes of calling an operation asks to stop. -/
def Operation.isContained : Operation (Answer Reply) → Bool
  | .absent exception => exception.isFault
  | .unfit exception => exception.isFault
  | .ready (.ok _) => true
  | .ready (.error exception) => exception.isFault

/-- A context is refused with a fault that can be contained, unless its source asks to stop. -/
theorem Scratch.isContained_of_acquire {source : ScratchSource} {session : Session} {fault : Fault}
    (provides : ∀ exception ∈ source.refusal, exception.isFault = true)
    (refused : (acquire source session).1 = .error fault) : fault.isContained = true := by
  unfold acquire at refused
  cases refusal : source.refusal with
  | some exception =>
      simp only [refusal, bind_run, throw_run, Except.error.injEq] at refused
      exact refused ▸ provides exception refusal
  | none =>
      rcases FileTree.makeDirectory_run session.working (nextDirectory source session)
          session.files with ⟨other, failed⟩ | ⟨place, _, made⟩
      · rw [nextDirectory] at failed
        have raised : Fault.file other = fault := by simpa [refusal, bind_run, failed] using refused
        exact raised ▸ rfl
      · rw [nextDirectory] at made
        simp [refusal, bind_run, map_run, made, Except.map] at refused

namespace Primary

variable {operation : Primary} {project : Project} {offered : Operation (Answer Reply)}

/-- Whether an operation compiles or translates the projects of a target. -/
def Compiles (target : Target) : Primary → Prop
  | .run _ => False
  | .test _ => False
  | .compileClasses => target.family = .jvm
  | .translate translator => target.family = translator.family

/-- What compiles the projects of a target is highlighted, up to the debug information of
modules. -/
theorem Compiles.cases {target : Target} (compiles : operation.Compiles target) :
    operation = target.highlighted ∨ ∃ debugInfo,
      operation = .translate (.wasm debugInfo) ∧ target.highlighted = .translate (.wasm false) := by
  unfold Target.highlighted
  cases operation with
  | run | test => exact compiles.elim
  | compileClasses =>
      rw [show target.family = .jvm from compiles]
      exact .inl rfl
  | translate translator =>
      rw [show target.family = translator.family from compiles]
      cases translator with
      | js => exact .inl rfl
      | wasm debugInfo => exact .inr ⟨debugInfo, rfl, rfl⟩

theorem Compiles.routed (compiles : operation.Compiles project.target) :
    project.target.family = operation.family := by
  cases operation with
  | run | test => exact compiles.elim
  | compileClasses | translate => exact compiles

/-! ## Endings -/

/-- Debug information makes no difference to the diagnostics of a module, and none to whether
there is one. -/
theorem diagnostics_ending_wasm (project : Project) (offered : Operation (Answer Reply))
    (debugInfo other : Bool) :
    ((translate (.wasm debugInfo)).ending project offered).map Outcome.diagnostics =
      ((translate (.wasm other)).ending project offered).map Outcome.diagnostics := by
  rcases offered with (exception | (outcome | proposals)) | exception | exception
  · rfl
  · rcases outcome with result | ⟨artifact, diagnostics⟩ | diagnostics
    · rfl
    · cases artifact <;> rfl
    · rfl
  · rfl
  · rfl
  · rfl

/-- What compiles a project makes the diagnostics that are highlighted. -/
theorem Compiles.diagnostics_ending (compiles : operation.Compiles project.target) :
    (operation.ending project offered).map Outcome.diagnostics =
      (project.target.highlighted.ending project offered).map Outcome.diagnostics := by
  rcases compiles.cases with rfl | ⟨debugInfo, rfl, highlighted⟩
  · rfl
  · rw [highlighted]
    exact diagnostics_ending_wasm project offered debugInfo false

theorem isContained_of_payload {translator : Translator} {artifact : Artifact} {fault : Fault}
    (failed : translator.payload artifact = .error fault) : fault.isContained = true := by
  cases translator <;> cases artifact <;> simp [Translator.payload] at failed <;>
    subst failed <;> rfl

theorem isContained_of_translated {translator : Translator} {outcome : Outcome} {fault : Fault}
    (failed : translator.translated outcome = .error fault) : fault.isContained = true := by
  rcases outcome with result | ⟨artifact, diagnostics⟩ | diagnostics
  · simp [Translator.translated] at failed
  · cases held : translator.payload artifact with
    | error other =>
        simp only [Translator.translated, held, bind, Except.bind, Except.error.injEq] at failed
        exact failed ▸ isContained_of_payload held
    | ok payload => simp [Translator.translated, held, bind, Except.bind, pure, Except.pure] at failed
  · simp [Translator.translated] at failed

/-- What a translator makes of a contained behaviour fails with what can be contained. -/
theorem isContained_of_translator {translator : Translator} {fault : Fault}
    (contained : offered.isContained = true) (failed : translator.ending offered = .error fault) :
    fault.isContained = true := by
  have described : ∀ {exception : Exception}, exception.isFault = true →
      translator.contained exception ≠ .error fault := by
    intro exception isFault
    simp [Translator.contained, isFault]
  rcases offered with (exception | (outcome | proposals)) | exception | exception
  · exact absurd failed (described contained)
  · exact isContained_of_translated failed
  · obtain rfl := Except.error.inj failed
    rfl
  · obtain rfl := Except.error.inj failed
    exact contained
  · exact absurd failed (described contained)

/-- What an operation makes of a contained behaviour fails with what can be contained. -/
theorem isContained_of_ending {fault : Fault} (contained : offered.isContained = true)
    (failed : operation.ending project offered = .error fault) : fault.isContained = true := by
  cases operation with
  | run | test | compileClasses =>
      rcases offered with (exception | (outcome | proposals)) | exception | exception
      · obtain rfl := Except.error.inj failed
        exact contained
      · nomatch failed
      · obtain rfl := Except.error.inj failed
        rfl
      · obtain rfl := Except.error.inj failed
        exact contained
      · obtain rfl := Except.error.inj failed
        exact contained
  | translate translator =>
      cases came : translator.ending offered with
      | error other =>
          simp only [ending, came, bind, Except.bind, Except.error.injEq] at failed
          exact failed ▸ isContained_of_translator contained came
      | ok result => simp [ending, came, bind, Except.bind, pure, Except.pure] at failed

/-- Without files an operation has no diagnostics. -/
theorem diagnostics_vacant (operation : Primary) : operation.vacant.diagnostics = .empty := by
  cases operation <;> rfl

/-! ## Shaped outcomes -/

variable {executor : Executor} {session : Session}

/-- How shaping ends is decided by the files, the source of contexts and the behaviour of the
backend, in this order. -/
theorem shaped_ending (routed : project.target.family = operation.family)
    (offers : project.files ≠ [] → operation.Offers executor.backends project
      (SourceHandle.ofProject session.nextContext project) offered) :
    (operation.shaped executor project session).1 =
      if project.files = [] then .ok operation.vacant
      else (Scratch.acquire executor.scratch session).1 >>= fun _ =>
        operation.ending project offered := by
  by_cases noFiles : project.files = []
  · obtain ⟨events, yielded, _⟩ := shaped_vacant executor routed noFiles
    rw [yielded session, if_pos noFiles]
  · rw [if_neg noFiles]
    rcases shaped_run executor noFiles routed (offers noFiles) with
      ⟨fault, refused, failed⟩ | ⟨provided, after, ran, _⟩
    · rw [failed, refused]
      rfl
    · rw [ran]
      cases acquired : (Scratch.acquire executor.scratch session).1 with
      | error fault => simp [acquired, Except.isOk, Except.toBool] at provided
      | ok scratch => rfl

/-- What compiles a project comes to the diagnostics that are highlighted. -/
theorem Compiles.diagnostics_shaped (compiles : operation.Compiles project.target)
    (offers : project.files ≠ [] → ∀ asked ∈ [operation, project.target.highlighted],
      asked.Offers executor.backends project
        (SourceHandle.ofProject session.nextContext project) offered) :
    (operation.shaped executor project session).1.map Outcome.diagnostics =
      (project.target.highlighted.shaped executor project session).1.map
        Outcome.diagnostics := by
  rw [shaped_ending compiles.routed fun hasFiles => offers hasFiles _ (by simp),
    shaped_ending project.target.family_highlighted.symm
      fun hasFiles => offers hasFiles _ (by simp)]
  by_cases noFiles : project.files = []
  · simp [if_pos noFiles, Except.map, diagnostics_vacant]
  · rw [if_neg noFiles, if_neg noFiles]
    cases (Scratch.acquire executor.scratch session).1 with
    | error fault => rfl
    | ok scratch => exact compiles.diagnostics_ending

/-- Shaping fails with what can be contained. -/
theorem isContained_of_shaped {fault : Fault} (contained : offered.isContained = true)
    (provides : ∀ exception ∈ executor.scratch.refusal, exception.isFault = true)
    (routed : project.target.family = operation.family)
    (offers : project.files ≠ [] → operation.Offers executor.backends project
      (SourceHandle.ofProject session.nextContext project) offered)
    (failed : (operation.shaped executor project session).1 = .error fault) :
    fault.isContained = true := by
  rw [shaped_ending routed offers] at failed
  split at failed
  next noFiles => nomatch failed
  next hasFiles =>
    cases acquired : (Scratch.acquire executor.scratch session).1 with
    | error other =>
        rw [acquired] at failed
        obtain rfl := Except.error.inj failed
        exact Scratch.isContained_of_acquire provides acquired
    | ok scratch =>
        rw [acquired] at failed
        exact isContained_of_ending contained failed

end Primary

namespace Executor

variable {operation : Primary} {executor : Executor} {project : Project} {session : Session}
  {offered : Operation (Answer Reply)}

/-- Highlighting answers with the diagnostics that shaping comes to, and with none where it fails
with what can be contained. -/
theorem highlight_ending (ending : Except Fault Diagnostics)
    (came : (project.target.highlighted.shaped executor project session).1.map
      Outcome.diagnostics = ending)
    (contained : ∀ fault, ending = .error fault → fault.isContained = true) :
    (executor.highlight project session).1 = .ok (ending.toOption.getD .empty) := by
  rw [highlight_eq, orElseLogged_run, map_run, came]
  cases ending with
  | error fault => simp [contained fault rfl, Except.toOption]
  | ok diagnostics => rfl

/-- Highlighting always ends with diagnostics, and reports nothing. For every operation that
compiles or translates the project and meets the same behaviour of its backend, they are the
diagnostics of its outcome; where it fails there are none, unless it is the sink that asks to stop
at the outcome. -/
theorem highlight_agrees (compiles : operation.Compiles project.target)
    (contained : offered.isContained = true)
    (provides : ∀ exception ∈ executor.scratch.refusal, exception.isFault = true)
    (offers : project.files ≠ [] → ∀ asked ∈ [operation, project.target.highlighted],
      asked.Offers executor.backends project
        (SourceHandle.ofProject session.nextContext project) offered) :
    ∃ diagnostics after, executor.highlight project session = (.ok diagnostics, after) ∧
      Trace.telemetry after.trace = Trace.telemetry session.trace ∧
      match (operation.perform executor project session).1 with
      | .ok outcome => diagnostics = outcome.diagnostics
      | .error fault => diagnostics = .empty ∨ ∃ outcome stop,
          diagnostics = outcome.diagnostics ∧
          executor.sink.halt? ⟨outcome, project.target, executor.version.compiler⟩ = some stop ∧
          fault = .raised stop := by
  have quiet := (executor.highlight_serves project session).telemetry
  rw [List.append_nil] at quiet
  have same := compiles.diagnostics_shaped offers
  have containedShaped : ∀ fault, (operation.shaped executor project session).1 = .error fault →
      fault.isContained = true := fun _ =>
    Primary.isContained_of_shaped contained provides compiles.routed fun hasFiles =>
      offers hasFiles operation (by simp)
  cases came : (operation.shaped executor project session).1 with
  | error fault =>
      rw [came] at same
      have answered := highlight_ending (.error fault) same.symm fun other raised =>
        containedShaped other (came.trans (by rw [Except.error.inj raised]))
      refine ⟨.empty, _, Prod.ext answered rfl, quiet, ?_⟩
      rw [(Primary.perform_of_shaped_fault came).1]
      exact .inl rfl
  | ok outcome =>
      -- What can still fail here is the report, which highlighting does without.
      rw [came] at same
      have answered := highlight_ending (.ok outcome.diagnostics) same.symm nofun
      refine ⟨outcome.diagnostics, _, Prod.ext answered rfl, quiet, ?_⟩
      rw [(Primary.perform_of_shaped_outcome came).2]
      cases halts : executor.sink.halt? ⟨outcome, project.target, executor.version.compiler⟩ with
      | none => rfl
      | some stop => exact .inr ⟨outcome, stop, rfl, halts, rfl⟩

/-- Backends that produce a module with an error under a name that is no file's. -/
def producingModule : Executor :=
  Scripted.executor [("wasm", .ok (.outcome (.compilation (.compiled (.module ⟨"", "", [], none⟩)
    (.single "Other.kt" "unresolved reference" .error)))))]

/-- The error of a module is highlighted under the file's name, as it is when the project is
translated with debug information. -/
theorem highlight_agrees_on_module :
    ∃ diagnostics after outcome final,
      producingModule.highlight (Project.single .wasm) Session.fresh = (.ok diagnostics, after) ∧
      Trace.telemetry after.trace = [] ∧
      (Primary.translate (.wasm true)).perform producingModule (Project.single .wasm)
        Session.fresh = (.ok outcome, final) ∧
      diagnostics = outcome.diagnostics ∧
      outcome.diagnostics.byFile.keys = ["File.kt"] := by
  obtain ⟨diagnostics, after, answered, quiet, same⟩ :=
    @highlight_agrees (.translate (.wasm true)) producingModule (Project.single .wasm)
      Session.fresh _ rfl rfl nofun fun _ asked listed => by
        rcases List.mem_cons.mp listed with rfl | listed
        · exact ⟨.plain, rfl, rfl⟩
        · obtain rfl := List.mem_singleton.mp listed
          exact ⟨.plain, rfl, rfl⟩
  exact ⟨diagnostics, after, _, _, answered, quiet, rfl, same, by decide +kernel⟩

end Executor

end Multitarget
