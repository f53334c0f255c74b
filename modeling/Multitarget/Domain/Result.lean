import Multitarget.Domain.Diagnostics
import Multitarget.Domain.Exception
import Multitarget.Text.Base64

/-!
# Results

What calls of a backend yield: the outcome of a compilation with its payload,
or the outcome of running, testing or translating a project.
-/

namespace Multitarget

open Schema (Checked Field)
open Json (Document)

/-- The wire form of bytes: base 64 text. -/
def bytesDocument (bytes : Text.Bytes) : Document :=
  .text (String.ofList (Text.Base64.encode bytes))

/-- The field that holds the diagnostics of a result. -/
def diagnosticsField : Field := ⟨"compilerDiagnostics", "compiler_diagnostics"⟩

/-- Reads the diagnostics of a result; there need be none. -/
def checkDiagnostics (entries : List (Value × Value)) : Checked Diagnostics :=
  Schema.defaulted entries diagnosticsField .empty Diagnostics.check

/-- The outcome of a compilation. -/
inductive Compilation (α : Type) where
  /-- A payload was produced. -/
  | compiled (result : α) (diagnostics : Diagnostics)
  /-- Nothing was produced. -/
  | notCompiled (diagnostics : Diagnostics)
  deriving DecidableEq, Repr

namespace Compilation

variable {α : Type}

/-- The diagnostics of either outcome. -/
def diagnostics : Compilation α → Diagnostics
  | .compiled _ diagnostics => diagnostics
  | .notCompiled diagnostics => diagnostics

/-- Whether a payload was produced. -/
def isCompiled : Compilation α → Bool
  | .compiled _ _ => true
  | .notCompiled _ => false

/-- The outcome with its payload changed. -/
def map {β : Type} (change : α → β) : Compilation α → Compilation β
  | .compiled result diagnostics => .compiled (change result) diagnostics
  | .notCompiled diagnostics => .notCompiled diagnostics

/-- Reads an outcome with a payload; `name` names the record. -/
def checkCompiled (name : String) (payload : Value → Checked α) : Value → Checked (Compilation α) :=
  Schema.record name [diagnosticsField, .simple "result"] fun entries =>
    (fun diagnostics result => Compilation.compiled result diagnostics)
      <$> checkDiagnostics entries
      <*> Schema.required entries (.simple "result") payload

/-- Reads an outcome without a payload. -/
def checkNotCompiled : Value → Checked (Compilation α) :=
  Schema.record "NotCompiled" [diagnosticsField] fun entries =>
    Compilation.notCompiled <$> checkDiagnostics entries

/-- The wire form of an outcome. -/
def toDocument (payload : α → Document) : Compilation α → Document
  | .compiled result diagnostics =>
    .object [("compilerDiagnostics", diagnostics.toDocument), ("result", payload result)]
  | .notCompiled diagnostics =>
    .object [("compilerDiagnostics", diagnostics.toDocument)]

end Compilation

/-- Class files by relative path, and the class to start. -/
structure ClassFiles where
  files : Keyed Text.Bytes
  mainClass : Option String
  deriving DecidableEq, Repr

namespace ClassFiles

/-- No class files. -/
def empty : ClassFiles := ⟨.empty, none⟩

/-- Reads class files. -/
def check : Value → Checked ClassFiles :=
  Schema.record "JvmClasses" [.simple "files", ⟨"mainClass", "main_class"⟩] fun entries =>
    ClassFiles.mk
      <$> Schema.defaulted entries (.simple "files") .empty (Schema.map Schema.bytes)
      <*> Schema.defaulted entries ⟨"mainClass", "main_class"⟩ none (Schema.optional Schema.text)

/-- The wire form of class files. -/
def toDocument (classes : ClassFiles) : Document :=
  .object [
    ("files", .object (classes.files.entries.map fun (path, content) =>
      (path, bytesDocument content))),
    ("mainClass", .ofText? classes.mainClass)]

end ClassFiles

/-- A WebAssembly module with the scripts around it. -/
structure WasmModule where
  script : String
  instantiation : String
  binary : Text.Bytes
  textForm : Option String
  deriving DecidableEq, Repr

namespace WasmModule

/-- The fields of a module. -/
def fields : List Field :=
  [⟨"jsCode", "js_code"⟩, ⟨"jsInstantiated", "js_instantiated"⟩, .simple "wasm", .simple "wat"]

/-- Reads a module. -/
def check : Value → Checked WasmModule :=
  Schema.record "WasmTranslationOutput" fields fun entries =>
    WasmModule.mk
      <$> Schema.required entries ⟨"jsCode", "js_code"⟩ Schema.text
      <*> Schema.required entries ⟨"jsInstantiated", "js_instantiated"⟩ Schema.text
      <*> Schema.required entries (.simple "wasm") Schema.bytes
      <*> Schema.defaulted entries (.simple "wat") none (Schema.optional Schema.text)

/-- The wire form of a module. -/
def toDocument (module : WasmModule) : Document :=
  .object [
    ("jsCode", .text module.script),
    ("jsInstantiated", .text module.instantiation),
    ("wasm", bytesDocument module.binary),
    ("wat", .ofText? module.textForm)]

end WasmModule

/-- How an execution or translation ended. -/
inductive Status where
  /-- Without error diagnostics and without a fault. -/
  | compiled
  /-- With an error diagnostic. -/
  | notCompiled
  /-- With a fault and no error diagnostic. -/
  | internalError
  deriving DecidableEq, Repr

/-- The name of a status. -/
def Status.name : Status → String
  | .compiled => "compiled"
  | .notCompiled => "not_compiled"
  | .internalError => "internal_error"

/-- How a test ended. -/
inductive TestStatus where
  | ok
  | fail
  | error
  deriving DecidableEq, Repr

namespace TestStatus

/-- All test statuses. -/
def all : List TestStatus := [.ok, .fail, .error]

/-- The name of a test status. -/
def name : TestStatus → String
  | .ok => "OK"
  | .fail => "FAIL"
  | .error => "ERROR"

end TestStatus

/-- The outcome of one test. -/
structure TestOutcome where
  className : String
  methodName : String
  status : TestStatus
  output : String
  exception : Option ExceptionDescription
  milliseconds : Nat
  deriving Repr

namespace TestOutcome

/-- The fields of a test outcome. -/
def fields : List Field :=
  [⟨"className", "class_name"⟩, ⟨"methodName", "method_name"⟩, .simple "status",
    .simple "output", .simple "exception", ⟨"executionTime", "execution_time"⟩]

/-- Reads a test outcome. -/
def check : Value → Checked TestOutcome :=
  Schema.record "TestDescription" fields fun entries =>
    TestOutcome.mk
      <$> Schema.required entries ⟨"className", "class_name"⟩ Schema.text
      <*> Schema.required entries ⟨"methodName", "method_name"⟩ Schema.text
      <*> Schema.required entries (.simple "status")
        (Schema.choice (TestStatus.all.map fun status => (status.name, status)))
      <*> Schema.defaulted entries (.simple "output") "" Schema.text
      <*> Schema.defaulted entries (.simple "exception") none
        (Schema.optional ExceptionDescription.checkInside)
      <*> Schema.defaulted entries ⟨"executionTime", "execution_time"⟩ 0 Schema.nat

/-- The wire form of a test outcome. -/
def toDocument (outcome : TestOutcome) : Document :=
  .object [
    ("className", .text outcome.className),
    ("methodName", .text outcome.methodName),
    ("status", .text outcome.status.name),
    ("output", .text outcome.output),
    ("exception", match outcome.exception with
      | none => .null
      | some exception => exception.toDocument),
    ("executionTime", .int outcome.milliseconds)]

end TestOutcome

/-- What an execution carries beside its text: nothing, test outcomes by class, or the parts of a
translation. -/
inductive Payload where
  | none
  | tests (results : Keyed (List TestOutcome))
  | script (code : Option String)
  | module (script instantiation : Option String) (binary : Option Text.Bytes)
    (textForm : Option String)
  deriving Repr

/-- The outcome of running, testing or translating a project. -/
structure Execution where
  diagnostics : Diagnostics
  text : String
  exception : Option ExceptionDescription
  byteCode : Option String
  payload : Payload
  deriving Repr

namespace Execution

/-- An outcome with nothing to report. -/
def empty (payload : Payload) : Execution := ⟨.empty, "", none, none, payload⟩

/-- How the execution ended; an error diagnostic outweighs a fault. -/
def status (execution : Execution) : Status :=
  if execution.diagnostics.hasErrors then .notCompiled
  else if execution.exception.isSome then .internalError
  else .compiled

/-- Whether the execution ended without error. -/
def succeeded (execution : Execution) : Bool :=
  execution.status == .compiled

/-- The kinds of payload. -/
inductive Kind where
  | plain
  | tests
  | script
  | module
  deriving DecidableEq, Repr

/-- The kind of a result's payload. -/
def kind (execution : Execution) : Kind :=
  match execution.payload with
  | .none => .plain
  | .tests _ => .tests
  | .script _ => .script
  | .module _ _ _ _ => .module

/-- The name of the record with a kind of payload. -/
def Kind.name : Kind → String
  | .plain => "ExecutionResult"
  | .tests => "JunitExecutionResult"
  | .script => "TranslationJsResult"
  | .module => "TranslationWasmResult"

/-- The fields of every execution. -/
def commonFields : List Field :=
  [diagnosticsField, .simple "text", .simple "exception", ⟨"jvmByteCode", "jvm_byte_code"⟩]

/-- The fields of the payload of a kind. -/
def Kind.fields : Kind → List Field
  | .plain => []
  | .tests => [⟨"testResults", "test_results"⟩]
  | .script => [⟨"jsCode", "js_code"⟩]
  | .module => WasmModule.fields

/-- Reads an optional text field. -/
def textField (entries : List (Value × Value)) (field : Field) : Checked (Option String) :=
  Schema.defaulted entries field none (Schema.optional Schema.text)

/-- Reads the payload of a kind. -/
def Kind.checkPayload (entries : List (Value × Value)) : Kind → Checked Payload
  | .plain => .valid .none
  | .tests =>
    Payload.tests <$> Schema.defaulted entries ⟨"testResults", "test_results"⟩ .empty
      (Schema.map (Schema.list TestOutcome.check))
  | .script => Payload.script <$> textField entries ⟨"jsCode", "js_code"⟩
  | .module =>
    Payload.module
      <$> textField entries ⟨"jsCode", "js_code"⟩
      <*> textField entries ⟨"jsInstantiated", "js_instantiated"⟩
      <*> Schema.defaulted entries (.simple "wasm") none (Schema.optional Schema.bytes)
      <*> textField entries (.simple "wat")

/-- Reads an execution with a payload of the given kind. -/
def check (kind : Kind) : Value → Checked Execution :=
  Schema.record kind.name (commonFields ++ kind.fields) fun entries =>
    Execution.mk
      <$> checkDiagnostics entries
      <*> Schema.defaulted entries (.simple "text") "" Schema.text
      <*> Schema.defaulted entries (.simple "exception") none
        (Schema.optional ExceptionDescription.checkInside)
      <*> textField entries ⟨"jvmByteCode", "jvm_byte_code"⟩
      <*> kind.checkPayload entries

/-- The members of the wire form of a payload. -/
def payloadMembers : Payload → List (String × Document)
  | .none => []
  | .tests results =>
    [("testResults", .object (results.entries.map fun (name, outcomes) =>
      (name, .array (outcomes.map TestOutcome.toDocument))))]
  | .script code => [("jsCode", .ofText? code)]
  | .module script instantiation binary textForm =>
    [("jsCode", .ofText? script), ("jsInstantiated", .ofText? instantiation),
      ("wasm", match binary with
        | .none => .null
        | some bytes => bytesDocument bytes),
      ("wat", .ofText? textForm)]

/-- The wire form of an execution. -/
def toDocument (execution : Execution) : Document :=
  .object ([
    ("compilerDiagnostics", execution.diagnostics.toDocument),
    ("text", .text execution.text),
    ("exception", match execution.exception with
      | none => .null
      | some exception => exception.toDocument),
    ("jvmByteCode", .ofText? execution.byteCode)] ++ payloadMembers execution.payload)

end Execution

/-- The outcome of a compilation to a directory. -/
structure CompileResponse where
  success : Bool
  deriving DecidableEq, Repr

namespace CompileResponse

/-- Reads a response. -/
def check : Value → Checked CompileResponse :=
  Schema.record "CompilationResponse" [.simple "success"] fun entries =>
    CompileResponse.mk <$> Schema.required entries (.simple "success") Schema.bool

/-- The wire form of a response. -/
def toDocument (response : CompileResponse) : Document :=
  .object [("success", .bool response.success)]

end CompileResponse

end Multitarget
