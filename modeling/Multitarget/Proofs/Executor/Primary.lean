import Multitarget.Executor.Basic

/-!
# Primary operations

The primary operations with what each takes from its backend: the operation that
it is offered for the files of a project, and what it makes of every behaviour
of that operation.
-/

namespace Multitarget

/-- The translators with their options. -/
inductive Translator where
  | js
  | wasm (debugInfo : Bool)
  deriving DecidableEq, Repr

/-- The primary operations with their options. -/
inductive Primary where
  | run (addByteCode : Bool)
  | test (addByteCode : Bool)
  | compileClasses
  | translate (translator : Translator)
  deriving DecidableEq, Repr

/-! ## Backends -/

/-- The outcome that a reply is, if it is one. -/
def Reply.asOutcome : Reply → Except Fault Outcome
  | .outcome known => .ok known
  | .proposals _ => .error (.unsuitable "list" "compiler_diagnostics")

/-- The reply of an operation, if it gives one. -/
def Operation.reply : Operation (Answer Reply) → Except Fault Reply
  | .absent exception => .error (.raised exception)
  | .unfit exception => .error (.raised exception)
  | .ready (.ok reply) => .ok reply
  | .ready (.error exception) => .error (.raised exception)

/-- The calls that are made of an operation, if there is one to be called. -/
def Operation.calls {α : Type} (call : Option Call) : Operation α → List Call
  | .ready _ => call.toList
  | .absent _ => []
  | .unfit _ => []

namespace Translator

/-- The family that a translator serves. -/
def family : Translator → Family
  | .js => .js
  | .wasm _ => .wasm

/-- Translates a project and reports the result. -/
def translate (executor : Executor) (project : Project) : Translator → Action Execution
  | .js => executor.translateJs project
  | .wasm debugInfo => executor.translateWasm project debugInfo

/-- The shaped result of translating a project. -/
def shaped (executor : Executor) (project : Project) : Translator → Action Execution
  | .js => executor.scriptShaped project
  | .wasm debugInfo => executor.moduleShaped project debugInfo

/-- Hands files to the backend of a translator. -/
def call (executor : Executor) (project : Project) (files : List SourceHandle) :
    Translator → Action Execution
  | .js =>
      Translation.translateJs executor.backends.translateJs files project.argumentWords
  | .wasm debugInfo =>
      Translation.translateWasm executor.backends.translateWasm files project.argumentWords
        project.target debugInfo

/-- The call of a backend by a translator. -/
def callFor (project : Project) (files : List SourceHandle) : Translator → Option Call
  | .js => some (.translateJs files project.argumentWords)
  | .wasm debugInfo =>
      project.target.variant?.map fun variant =>
        .translateWasm files project.argumentWords variant debugInfo

/-- The payload of a result without a translation. -/
def missing : Translator → Payload
  | .js => Translation.noScript
  | .wasm _ => Translation.noModule

/-- The payload that a translator makes of an artifact, if it is one of its own. -/
def payload : Translator → Artifact → Except Fault Payload
  | .js, .script code => .ok (.script (some code))
  | .js, _ => .error (.invalid [⟨[.name "js_code"], .textType⟩])
  | .wasm debugInfo, .module module =>
      .ok (.module (some module.script) (some module.instantiation) (some module.binary)
        (if debugInfo then module.textForm else none))
  | .wasm _, artifact => .error (.unsuitable artifact.typeName "js_code")

/-- What a translator makes of an outcome. -/
def translated (translator : Translator) : Outcome → Except Fault Execution
  | .compilation (.compiled artifact diagnostics) => do
      let payload ← translator.payload artifact
      return { Execution.empty payload with diagnostics }
  | outcome => .ok { Execution.empty translator.missing with diagnostics := outcome.diagnostics }

/-- What a translator makes of an exception: a result that describes it, unless it is a request to
stop. -/
def contained (translator : Translator) (exception : Exception) : Except Fault Execution :=
  if exception.isFault then .ok (Translation.failed exception translator.missing)
  else .error (.raised exception)

/-- What a translator makes of the operation it is offered. -/
def ending (translator : Translator) : Operation (Answer Reply) → Except Fault Execution
  | .absent exception => .error (.raised exception)
  | .unfit exception => translator.contained exception
  | .ready (.ok reply) => do translator.translated (← reply.asOutcome)
  | .ready (.error exception) => translator.contained exception

/-- The operation that backends offer a translator for these files of a project. -/
def Offers (backends : Backends) (project : Project) (files : List SourceHandle)
    (offered : Operation (Answer Reply)) : Translator → Prop
  | .js => backends.translateJs.map (fun call => call files project.argumentWords) = offered
  | .wasm debugInfo => ∃ variant, project.target.variant? = some variant ∧
      backends.translateWasm.map (fun call => call files project.argumentWords variant debugInfo) =
        offered

/-- Whether a translator is to produce artifacts of this kind. -/
def Produces : Translator → Artifact → Prop
  | .js, artifact => ∃ code, artifact = .script code
  | .wasm _, artifact => ∃ parts, artifact = .module parts

end Translator

namespace Primary

/-- The family that an operation serves. -/
def family : Primary → Family
  | .run _ => .jvm
  | .test _ => .jvm
  | .compileClasses => .jvm
  | .translate translator => translator.family

/-- Performs an operation and reports what came of it. -/
def perform (executor : Executor) (project : Project) : Primary → Action Outcome
  | .run addByteCode => executor.run project addByteCode
  | .test addByteCode => executor.test project addByteCode
  | .compileClasses => executor.compileClasses project
  | .translate translator => .execution <$> translator.translate executor project

/-- What comes of an operation, shaped. -/
def shaped (executor : Executor) (project : Project) : Primary → Action Outcome
  | .run addByteCode => executor.runShaped project addByteCode
  | .test addByteCode => executor.testShaped project addByteCode
  | .compileClasses => executor.classesShaped project
  | .translate translator => .execution <$> translator.shaped executor project

/-- The call of a backend by an operation. -/
def callFor (project : Project) (files : List SourceHandle) : Primary → Option Call
  | .run addByteCode => some (.run files addByteCode project.arguments)
  | .test addByteCode => some (.test files addByteCode)
  | .compileClasses => some (.compile files project.addClasspath)
  | .translate translator => translator.callFor project files

/-- What comes of an operation for a project without files. -/
def vacant : Primary → Outcome
  | .run _ => .execution (.empty .none)
  | .test _ => .execution (.empty (.tests .empty))
  | .compileClasses => .compilation (.compiled (.classes .empty) .empty)
  | .translate translator => .execution (.empty translator.missing)

/-- What an operation makes, for a project, of the operation of a backend it is offered. -/
def ending (project : Project) (offered : Operation (Answer Reply)) :
    Primary → Except Fault Outcome
  | .run _ => do return (← (← offered.reply).asOutcome).shape project
  | .test _ => do return (← (← offered.reply).asOutcome).shape project
  | .compileClasses => do return (← (← offered.reply).asOutcome).shapeCompilation project
  | .translate translator => do
      return .execution ((← translator.ending offered).shape project)

/-- The operation that backends offer for these files of a project. -/
def Offers (backends : Backends) (project : Project) (files : List SourceHandle)
    (offered : Operation (Answer Reply)) : Primary → Prop
  | .run addByteCode =>
      backends.run.map (fun call => call files addByteCode project.arguments) = offered
  | .test addByteCode => backends.test.map (fun call => call files addByteCode) = offered
  | .compileClasses => backends.compile.map (fun call => call files project.addClasspath) = offered
  | .translate translator => translator.Offers backends project files offered

/-- The answer that backends give an operation for these files of a project. -/
def Answers (backends : Backends) (project : Project) (files : List SourceHandle)
    (answer : Answer Reply) (operation : Primary) : Prop :=
  operation.Offers backends project files (.ready answer)

/-- Whether an operation is to be answered with an outcome of this kind. -/
def Declares : Primary → Outcome → Prop
  | .run _, reply => ∃ result, reply = .execution result
  | .test _, reply => ∃ result, reply = .execution result
  | .compileClasses, reply => ∃ result, reply = .compilation result ∧
      ∀ artifact diagnostics, result = .compiled artifact diagnostics →
        ∃ files, artifact = .classes files
  | .translate translator, reply => ∃ result, reply = .compilation result ∧
      ∀ artifact diagnostics, result = .compiled artifact diagnostics →
        translator.Produces artifact

/-- A project of the operation's family is offered some operation of a backend. -/
theorem exists_offers (operation : Primary) (backends : Backends) {project : Project}
    (routed : project.target.family = operation.family) (files : List SourceHandle) :
    ∃ offered, operation.Offers backends project files offered := by
  cases operation with
  | run | test | compileClasses => exact ⟨_, rfl⟩
  | translate translator =>
      cases translator with
      | js => exact ⟨_, rfl⟩
      | wasm debugInfo =>
          cases target : project.target with
          | wasm => exact ⟨_, .plain, by rw [target]; rfl, rfl⟩
          | composeWasm => exact ⟨_, .compose, by rw [target]; rfl, rfl⟩
          | java | junit | canvas | js | jsIr => simp [target, family, Translator.family,
              Target.family] at routed

/-- Backends offer an operation one thing. -/
theorem Offers.unique {operation : Primary} {backends : Backends} {project : Project}
    {files : List SourceHandle} {first second : Operation (Answer Reply)}
    (offered : operation.Offers backends project files first)
    (other : operation.Offers backends project files second) : first = second := by
  cases operation with
  | run | test | compileClasses => exact offered.symm.trans other
  | translate translator =>
      cases translator with
      | js => exact offered.symm.trans other
      | wasm debugInfo =>
          obtain ⟨variant, selected, rfl⟩ := offered
          obtain ⟨same, selectedSame, rfl⟩ := other
          rw [Option.some.inj (selected.symm.trans selectedSame)]

/-- Performing an operation is shaping what comes of it and reporting that. -/
theorem perform_eq (executor : Executor) (project : Project) (operation : Primary) :
    operation.perform executor project = (do
      let outcome ← operation.shaped executor project
      executor.report project outcome
      return outcome) := by
  cases operation with
  | run | test | compileClasses => rfl
  | translate translator =>
      cases translator <;>
        simp [perform, shaped, Translator.translate, Translator.shaped, Executor.translateJs,
          Executor.translateWasm]

end Primary

end Multitarget
