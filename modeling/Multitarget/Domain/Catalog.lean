import Multitarget.Domain.Configuration
import Multitarget.Domain.Project
import Multitarget.Domain.Result

/-!
# The catalog of records

Every record by the name it has on the wire: how it is read from a value and
written back in its normal wire form.
-/

namespace Multitarget.Catalog

open Schema (Checked)
open Json (Document)

/-- A way to bring a value into the wire form of a record. -/
abbrev Normalizer := Value → Checked Document

/-- Reads a record and writes it. -/
def normalizer {α : Type} (check : Value → Checked α) (write : α → Document) : Normalizer :=
  fun value => (check value).map write

/-- The kinds of executions. -/
def executionKinds : List Execution.Kind := [.plain, .tests, .script, .module]

/-- All records by name. -/
def records : List (String × Normalizer) :=
  executionKinds.map (fun kind =>
    (kind.name, normalizer (Execution.check kind) Execution.toDocument)) ++
  [("Project", normalizer Project.check Project.toDocument),
    ("ProjectFile", normalizer ProjectFile.check ProjectFile.toDocument),
    ("TextPosition", normalizer Position.check Position.toDocument),
    ("TextInterval", normalizer Interval.check Interval.toDocument),
    ("ErrorDescriptor", normalizer Diagnostic.check Diagnostic.toDocument),
    ("CompilerDiagnostics", normalizer Diagnostics.check Diagnostics.toDocument),
    ("ExceptionDescriptor",
      normalizer ExceptionDescription.check ExceptionDescription.toDocument),
    ("JvmClasses", normalizer ClassFiles.check ClassFiles.toDocument),
    ("WasmTranslationOutput", normalizer WasmModule.check WasmModule.toDocument),
    ("TestDescription", normalizer TestOutcome.check TestOutcome.toDocument),
    ("CompilationResponse", normalizer CompileResponse.check CompileResponse.toDocument),
    ("Completion", normalizer Completion.check Completion.toDocument),
    ("VersionInfo", normalizer Version.check Version.toDocument),
    ("KompileConfig", normalizer Configuration.check Configuration.toDocument),
    ("BackendsConfig", normalizer BackendReferences.check BackendReferences.toDocument),
    ("LoggingConfig", normalizer LogSettings.check LogSettings.toDocument),
    ("CompiledJs", normalizer (Compilation.checkCompiled "Compiled[str]" Schema.text)
      (Compilation.toDocument .text)),
    ("CompiledClasses",
      normalizer (Compilation.checkCompiled "Compiled[JvmClasses]" ClassFiles.check)
        (Compilation.toDocument ClassFiles.toDocument)),
    ("NotCompiled", normalizer (Compilation.checkNotCompiled : Value → Checked (Compilation String))
      (Compilation.toDocument .text))]

/-- The normalizer of the record of a name. -/
def find? (name : String) : Option Normalizer :=
  (records.find? fun entry => entry.1 == name).map Prod.snd

end Multitarget.Catalog
