import Multitarget.Command.Arguments
import Multitarget.Command.Refusal
import Multitarget.Domain.Report
import Multitarget.Domain.Wire
import Multitarget.Executor.Wiring
import Multitarget.Session.Loading

/-!
# Operations of commands

What each command does: it loads a project and a configuration, calls the
executor, and writes what came of it to the console. Its exit status tells
whether the project compiled, and whether a backend or a file was at fault.
-/

namespace Multitarget

/-- What commands find around them: the modules that references can name, and the value of the
variable that leads to a configuration file. -/
structure Surroundings where
  registry : Registry
  setting : Option String

namespace Operation

/-! ## Loading -/

/-- Loads a project. -/
def loadProject (path : String) : Attempt Project := do
  if !(← Action.fileExists (FilePath.ofText path)) then throw (.missingProject path)
  Attempt.explaining (Refusal.ofProject path) (Loading.project (FilePath.ofText path))

/-- Loads a configuration and puts an executor together. -/
def loadExecutor (surroundings : Surroundings) (path : Option String) : Attempt Executor :=
  Attempt.explaining Refusal.ofFailure do
    let configuration ← Loading.configurationOf surroundings.setting path
    let wired ← Wired.build surroundings.registry configuration true
    return wired.executor

/-- What most commands start with. -/
def load (surroundings : Surroundings) (arguments : Arguments) :
    Attempt (Project × Executor) := do
  let project ← loadProject arguments.project
  let executor ← loadExecutor surroundings arguments.config
  return (project, executor)

/-! ## Writing results -/

/-- Writes a diagnostic as a line of a report, marked by its severity. -/
def printDiagnostic (file : String) (diagnostic : Diagnostic) : Action Unit :=
  let line := Console.Markup.escape (Report.lineChars file diagnostic)
  match diagnostic.severity with
  | .error => Console.printMarked .failure line
  | .warning => Console.printMarked .warning line
  | .info => Console.printLine false line

/-- Writes diagnostics, each on a line. -/
def printDiagnostics (diagnostics : Diagnostics) : Action Unit :=
  (Report.located diagnostics).forM fun (file, diagnostic) => printDiagnostic file diagnostic

/-- The markup that tells of the exception of a backend. -/
def headline (exception : ExceptionDescription) : List Char :=
  ("Backend failure: " ++ exception.fullName ++ ": " ++ exception.message.getD "None").toList

/-- Writes the exception of a backend. -/
def printException (exception : ExceptionDescription) : Action Unit :=
  Console.printMarked .failure (headline exception)

/-- The exit status of an execution. -/
def statusOf (result : Execution) : Nat :=
  match result.status with
  | .compiled => Refusal.success
  | .notCompiled => Refusal.userError
  | .internalError => Refusal.systemError

/-- The execution that an outcome is; anything else lacks what is asked of it. -/
def executionOf (part : String) : Outcome → Action Execution
  | .execution result => return result
  | outcome => throw (.unsuitable outcome.typeName part)

/-- Writes what a program wrote, and its byte code. -/
def printRun (outcome : Outcome) : Action Unit := do
  printDiagnostics outcome.diagnostics
  let result ← executionOf "exception" outcome
  result.exception.forM printException
  Console.printProgram result.text.toList
  let byteCode := result.byteCode.getD ""
  if byteCode ≠ "" then Console.printProgram byteCode.toList

/-- Writes a translated program: a script as it is, a module by its size and its text form. -/
def printTranslated : Payload → Action Unit
  | .module _ _ binary textForm => do
    let size := Text.decimal (binary.getD []).length
    Console.printMarked .success
      ("Translated to WebAssembly (".toList ++ size ++ " bytes)".toList)
    let textForm := textForm.getD ""
    if textForm ≠ "" then Console.printProgram (textForm.toList ++ ['\n'])
  | .script code => Console.printProgram ((code.getD "").toList ++ ['\n'])
  | _ => Console.printProgram ['\n']

/-- Writes the outcome of a translation. -/
def printTranslation (result : Execution) : Action Unit := do
  printDiagnostics result.diagnostics
  match result.exception with
  | some exception => printException exception
  | none => if result.status = .compiled then printTranslated result.payload

/-- The outcomes of tests, class by class. -/
def testOutcomes (result : Execution) : List TestOutcome :=
  match result.payload with
  | .tests results => results.entries.flatMap Prod.snd
  | _ => []

/-- Writes proposals. -/
def printProposals : Reply → Action Unit
  | .proposals items => Console.printDocument (.array (items.map Completion.toDocument))
  | .outcome _ => throw (.unsuitable "tuple" "model_dump")

/-- Writes the outcome of a test. -/
def printTest (outcome : TestOutcome) : Action Unit :=
  let name := Console.Markup.escape (outcome.className ++ "." ++ outcome.methodName).toList
  if outcome.status = .ok then Console.printMarked .success name
  else Console.printMarked .failure (name ++ ": ".toList ++ outcome.status.name.toList)

/-! ## Responses and exit statuses -/

/-- Writes what came of a run; the status tells how it ended. -/
def presentRun (asJson : Bool) (outcome : Outcome) : Action Nat := do
  if asJson then Console.printWritten (Wire.ofOutcome outcome) else printRun outcome
  return statusOf (← executionOf "status" outcome)

/-- Writes what came of a translation; the status tells how it ended. -/
def presentTranslation (asJson : Bool) (result : Execution) : Action Nat := do
  if asJson then Console.printWritten (Wire.ofExecution result) else printTranslation result
  return statusOf result

/-- Writes what came of a test; the status also tells whether all tests passed. -/
def presentTest (asJson : Bool) (outcome : Outcome) : Action Nat := do
  let result ← executionOf "status" outcome
  if result.status = .compiled then
    let outcomes := testOutcomes result
    if asJson then Console.printWritten (Wire.ofExecution result)
    else outcomes.forM printTest
    return if outcomes.all (·.status = .ok) then Refusal.success else Refusal.userError
  else
    if asJson then Console.printWritten (Wire.ofExecution result)
    else printDiagnostics result.diagnostics
    return statusOf result

/-- The markup that tells where class files or the report of a compilation are. -/
def whereabouts (output : FilePath) (success : Bool) : List Char :=
  if success then ("Compiled to " ++ output.text).toList
  else
    let written := output.append ⟨"", [Artifacts.reportName]⟩
    ("Compilation failed, see " ++ written.text).toList

/-- Writes where class files or the report of a compilation are; the status tells which. -/
def presentCompilation (output : FilePath) (response : CompileResponse) : Action Nat := do
  let line := whereabouts output response.success
  if response.success then
    Console.printMarked .success line
    return Refusal.success
  else
    Console.printMarked .failure line
    return Refusal.userError

/-- Writes proposals. -/
def presentProposals (reply : Reply) : Action Nat := do
  printProposals reply
  return Refusal.success

/-- Writes the diagnostics of a project. -/
def presentDiagnostics (asJson : Bool) (diagnostics : Diagnostics) : Action Nat := do
  if asJson then Console.printDocument diagnostics.toDocument
  else if diagnostics.isPresent then printDiagnostics diagnostics
  else Console.printMarked .success "No diagnostics".toList
  return Refusal.success

/-! ## Commands -/

/-- Runs a project. -/
def run (surroundings : Surroundings) (arguments : Arguments) : Attempt Nat := do
  let (project, executor) ← load surroundings arguments
  let outcome ← Attempt.explaining Refusal.ofFailure (executor.run project arguments.byteCode)
  presentRun arguments.asJson outcome

/-- Translates a project, to the family that its target belongs to if none is given. -/
def translate (surroundings : Surroundings) (arguments : Arguments) : Attempt Nat := do
  let (project, executor) ← load surroundings arguments
  let family := arguments.target.getD project.target.family
  let result ← Attempt.explaining Refusal.ofFailure
    (if family = .wasm then executor.translateWasm project arguments.debugInfo
      else executor.translateJs project)
  presentTranslation arguments.asJson result

/-- Tests a project. -/
def test (surroundings : Surroundings) (arguments : Arguments) : Attempt Nat := do
  let (project, executor) ← load surroundings arguments
  let outcome ← Attempt.explaining Refusal.ofFailure (executor.test project false)
  presentTest arguments.asJson outcome

/-- Compiles a project to class files below an output directory. -/
def compile (surroundings : Surroundings) (arguments : Arguments) : Attempt Nat := do
  let (project, executor) ← load surroundings arguments
  let output := FilePath.ofText arguments.output
  let response ← Attempt.explaining (Refusal.ofOutput arguments.output)
    (executor.compile project output.text)
  presentCompilation output response

/-- Proposes completions. -/
def complete (surroundings : Surroundings) (arguments : Arguments) : Attempt Nat := do
  let (project, executor) ← load surroundings arguments
  let reply ← executor.complete project arguments.line arguments.column
  presentProposals reply

/-- Writes the diagnostics of a project. -/
def highlight (surroundings : Surroundings) (arguments : Arguments) : Attempt Nat := do
  let (project, executor) ← load surroundings arguments
  let diagnostics ← executor.highlight project
  presentDiagnostics arguments.asJson diagnostics

/-- Writes the version that results are reported under. -/
def version (surroundings : Surroundings) (arguments : Arguments) : Attempt Nat := do
  let executor ← loadExecutor surroundings arguments.config
  let version := executor.version
  if arguments.asJson then Console.printDocument version.toDocument
  else
    Console.printLine false
      ("compiler " ++ version.compiler ++ ", stdlib " ++ version.library).toList
  return Refusal.success

/-- What a command does. -/
def ofCommand : Command → Surroundings → Arguments → Attempt Nat
  | .compile => compile
  | .complete => complete
  | .highlight => highlight
  | .run => run
  | .test => test
  | .translate => translate
  | .version => version

end Operation

end Multitarget
