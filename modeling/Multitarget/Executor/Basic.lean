import Multitarget.Domain.Shaping
import Multitarget.Executor.Artifacts
import Multitarget.Executor.Telemetry
import Multitarget.Executor.Translation
import Multitarget.Session.Scratch

/-!
# The executor

Maps a project and an operation to a result. A project goes to the one backend
that serves its target; the call happens inside a scratch context, its result is
shaped for the project and reported to telemetry. Primary operations pass on
what a backend raises, advisory ones answer with nothing instead.
-/

namespace Multitarget

/-- Backends with the version they are reported under, the source of scratch contexts and the
telemetry sink. -/
structure Executor where
  backends : Backends
  version : Version
  scratch : ScratchSource
  sink : Sink

namespace Executor

/-- The executor of a version, or of the one in effect where none is given. -/
def make (backends : Backends) (version : Option Version) (scratch : ScratchSource)
    (sink : Sink) : Action Executor := do
  match version <|> (← get).version with
  | some version => return ⟨backends, version, scratch, sink⟩
  | none => throw .noVersion

/-- Refuses a project whose target another family serves. -/
def expect (project : Project) (family : Family) : Action Unit :=
  if project.target.family = family then return
  else Action.failLogged (.routing project.target.name)

/-- Hands the files of a project to a call inside a scratch context. -/
def dispatch {α : Type} (executor : Executor) (project : Project)
    (call : List SourceHandle → Action α) : Action α :=
  Scratch.within executor.scratch fun context => do
    let files := SourceHandle.ofProject context project
    Action.log .debug "backend_dispatched" [("conf_type", .text project.target.name),
      ("files", .int files.length)]
    call files

/-- Shapes an execution for a project. -/
def shapeExecution (project : Project) (result : Execution) : Action Execution := do
  Action.logAll (result.shapeLog project)
  return result.shape project

/-- Shapes what comes of running or testing a project. -/
def shapeOutcome (project : Project) (outcome : Outcome) : Action Outcome := do
  Action.logAll (outcome.shapeLog project)
  return outcome.shape project

/-- Shapes what comes of compiling a project. -/
def shapeCompilation (project : Project) (outcome : Outcome) : Action Outcome := do
  Action.logAll (outcome.shapeCompilationLog project)
  return outcome.shapeCompilation project

/-! ## Shaped results -/

/-- What comes of running a project, shaped. -/
def runShaped (executor : Executor) (project : Project) (addByteCode : Bool) :
    Action Outcome := do
  expect project .jvm
  if project.files.isEmpty then return .execution (.empty .none)
  let reply ← executor.dispatch project fun files =>
    Translation.call (.run files addByteCode project.arguments)
      (executor.backends.run.map fun call => call files addByteCode project.arguments)
  shapeOutcome project (← Translation.outcomeOf reply)

/-- What comes of testing a project, shaped. -/
def testShaped (executor : Executor) (project : Project) (addByteCode : Bool) :
    Action Outcome := do
  expect project .jvm
  if project.files.isEmpty then return .execution (.empty (.tests .empty))
  let reply ← executor.dispatch project fun files =>
    Translation.call (.test files addByteCode)
      (executor.backends.test.map fun call => call files addByteCode)
  shapeOutcome project (← Translation.outcomeOf reply)

/-- What comes of compiling a project to class files, shaped. -/
def classesShaped (executor : Executor) (project : Project) : Action Outcome := do
  expect project .jvm
  if project.files.isEmpty then return .compilation (.compiled (.classes .empty) .empty)
  let reply ← executor.dispatch project fun files =>
    Translation.call (.compile files project.addClasspath)
      (executor.backends.compile.map fun call => call files project.addClasspath)
  shapeCompilation project (← Translation.outcomeOf reply)

/-- The shaped result of translating a project to JavaScript. -/
def scriptShaped (executor : Executor) (project : Project) : Action Execution := do
  expect project .js
  if project.files.isEmpty then return .empty Translation.noScript
  let result ← executor.dispatch project fun files =>
    Translation.translateJs executor.backends.translateJs files project.argumentWords
  shapeExecution project result

/-- The shaped result of translating a project to WebAssembly. -/
def moduleShaped (executor : Executor) (project : Project) (debugInfo : Bool) :
    Action Execution := do
  expect project .wasm
  if project.files.isEmpty then return .empty Translation.noModule
  let result ← executor.dispatch project fun files =>
    Translation.translateWasm executor.backends.translateWasm files project.argumentWords
      project.target debugInfo
  shapeExecution project result

/-! ## Primary operations -/

/-- Reports an outcome to telemetry. -/
def report (executor : Executor) (project : Project) (outcome : Outcome) : Action Unit :=
  executor.sink.report ⟨outcome, project.target, executor.version.compiler⟩

/-- Runs a project. -/
def run (executor : Executor) (project : Project) (addByteCode : Bool) : Action Outcome := do
  let outcome ← executor.runShaped project addByteCode
  executor.report project outcome
  return outcome

/-- Tests a project. -/
def test (executor : Executor) (project : Project) (addByteCode : Bool) : Action Outcome := do
  let outcome ← executor.testShaped project addByteCode
  executor.report project outcome
  return outcome

/-- Translates a project to JavaScript. -/
def translateJs (executor : Executor) (project : Project) : Action Execution := do
  let result ← executor.scriptShaped project
  executor.report project (.execution result)
  return result

/-- Translates a project to WebAssembly. -/
def translateWasm (executor : Executor) (project : Project) (debugInfo : Bool) :
    Action Execution := do
  let result ← executor.moduleShaped project debugInfo
  executor.report project (.execution result)
  return result

/-- Compiles a project to class files. -/
def compileClasses (executor : Executor) (project : Project) : Action Outcome := do
  let outcome ← executor.classesShaped project
  executor.report project outcome
  return outcome

/-- The class files that an artifact is. -/
def classFiles : Artifact → Action ClassFiles
  | .classes files => return files
  | artifact => throw (.unsuitable artifact.typeName "files")

/-- Compiles a project and writes the class files, or the report, below an output directory.
`output` is the text that names the directory. -/
def compile (executor : Executor) (project : Project) (output : String) :
    Action CompileResponse := do
  let outcome ← executor.compileClasses project
  let bound : List (String × Json.Document) :=
    [("output_dir", .text output), ("conf_type", .text project.target.name)]
  match outcome with
  | .compilation (.compiled artifact _) =>
    let classes ← classFiles artifact
    let _ ← Artifacts.storeClasses classes.files (FilePath.ofText output)
    Action.log .info "compile_succeeded" (bound ++ [("artifacts", .int classes.files.size)])
    return ⟨true⟩
  | _ =>
    let diagnostics := outcome.diagnostics
    let _ ← Artifacts.storeReport diagnostics (FilePath.ofText output)
    Action.log .info "compile_failed" (bound ++ [("errors", .int diagnostics.errors.length)])
    return ⟨false⟩

/-! ## Advisory operations -/

/-- Answers with something else where an action ends with a fault that can be contained, after
noting it in the log. -/
def orElseLogged {α : Type} (action : Action α) (answer : α) (event : String)
    (fields : List (String × Json.Document)) : Action α := do
  match ← Action.observe action with
  | .ok value => return value
  | .error fault =>
    if fault.isContained then
      Action.log .warning event fields
      return answer
    throw fault

/-- Proposes completions at a zero-based position of the project's first file. -/
def complete (executor : Executor) (project : Project) (line column : Int) :
    Action Reply :=
  let described : Json.Document := .text project.describe
  let proposals : Action Reply :=
    Scratch.within executor.scratch fun context => do
      match SourceHandle.ofProject context project with
      | [] =>
        Action.log .debug "completion_skipped" [("reason", .text "no files"),
          ("project", described)]
        return .proposals []
      | file :: _ =>
        if file.containsPosition line column then
          Translation.call (.complete file line column project.target context)
            (executor.backends.complete.map fun call =>
              call file line column project.target context)
        else Action.fail (.completionPosition file.name line column)
  orElseLogged proposals (.proposals []) "completion_failed"
    [("project", described), ("line", .int line), ("character", .int column)]

/-- The diagnostics of a project, without what would be produced. -/
def highlight (executor : Executor) (project : Project) : Action Diagnostics :=
  let shaped : Action Diagnostics :=
    match project.target.family with
    | .jvm => Outcome.diagnostics <$> executor.classesShaped project
    | .js => Execution.diagnostics <$> executor.scriptShaped project
    | .wasm => Execution.diagnostics <$> executor.moduleShaped project false
  orElseLogged shaped .empty "highlight_failed" [("project", .text project.describe)]

end Executor

end Multitarget
