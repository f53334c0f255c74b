import Multitarget.Domain.Catalog
import Multitarget.Proofs.Domain.RoundTrip

/-!
# Records without bytes

The records of the catalog that results, projects and configurations are made of and that
hold no bytes. What can be made of them is written and read back as it was, but for chains
of exceptions that are too long to be written.
-/

namespace Multitarget

open Schema (Checked)
open Json (Document)
open ExceptionDescription (nestingLimit)

/-- The records without bytes that are written by themselves. -/
inductive PlainRecord where
  | project
  | diagnostics
  | diagnostic
  | exception
  | execution (kind : Execution.Kind) (bytesFree : kind ≠ .module)
  | compiledScript
  | notCompiled
  | completion
  | version
  | response
  | configuration

namespace PlainRecord

/-- The name of a record in the catalog. -/
def name : PlainRecord → String
  | .project => "Project"
  | .diagnostics => "CompilerDiagnostics"
  | .diagnostic => "ErrorDescriptor"
  | .exception => "ExceptionDescriptor"
  | .execution kind _ => kind.name
  | .compiledScript => "CompiledJs"
  | .notCompiled => "NotCompiled"
  | .completion => "Completion"
  | .version => "VersionInfo"
  | .response => "CompilationResponse"
  | .configuration => "KompileConfig"

/-- What a record holds. -/
abbrev Content : PlainRecord → Type
  | .project => Project
  | .diagnostics => Diagnostics
  | .diagnostic => Diagnostic
  | .exception => ExceptionDescription
  | .execution _ _ => Execution
  | .compiledScript => Compilation String
  | .notCompiled => Compilation String
  | .completion => Completion
  | .version => Version
  | .response => CompileResponse
  | .configuration => Configuration

/-- Reads a record. -/
def check : (record : PlainRecord) → Value → Checked record.Content
  | .project => Project.check
  | .diagnostics => Diagnostics.check
  | .diagnostic => Diagnostic.check
  | .exception => ExceptionDescription.check
  | .execution kind _ => Execution.check kind
  | .compiledScript => Compilation.checkCompiled "Compiled[str]" Schema.text
  | .notCompiled => Compilation.checkNotCompiled
  | .completion => Completion.check
  | .version => Version.check
  | .response => CompileResponse.check
  | .configuration => Configuration.check

/-- The wire form of a record. -/
def toDocument : (record : PlainRecord) → record.Content → Document
  | .project => Project.toDocument
  | .diagnostics => Diagnostics.toDocument
  | .diagnostic => Diagnostic.toDocument
  | .exception => ExceptionDescription.toDocument
  | .execution _ _ => Execution.toDocument
  | .compiledScript => Compilation.toDocument .text
  | .notCompiled => Compilation.toDocument .text
  | .completion => Completion.toDocument
  | .version => Version.toDocument
  | .response => CompileResponse.toDocument
  | .configuration => Configuration.toDocument

/-- Writes a record, if not too many stand inside each other. -/
def write (record : PlainRecord) (content : record.Content) : Except Fault Document :=
  match record, content with
  | .exception, description => Wire.ofException description
  | .execution _ _, result => Wire.ofExecution result
  | record, content => .ok (record.toDocument content)

/-- These are the records of the catalog. -/
theorem find?_name (record : PlainRecord) :
    Catalog.find? record.name = some (Catalog.normalizer record.check record.toDocument) := by
  cases record with
  | execution kind bytesFree =>
      cases kind with
      | module => exact absurd rfl bytesFree
      | plain | tests | script => rfl
  | _ => rfl

/-- The rules that the parts of a record keep. -/
def IsSound : (record : PlainRecord) → record.Content → Prop
  | .project, content => Project.IsNamed content
  | .execution kind _, content => Execution.kind content = kind
  | .compiledScript, content => Compilation.isCompiled content = true
  | .notCompiled, content => Compilation.isCompiled content = false
  | .version, content => Version.IsNamed content
  | .configuration, content => Configuration.IsSound content
  | _, _ => True

/-- How many records of the row of exceptions stand inside each other, with the record that
tells of them. -/
def nesting : (record : PlainRecord) → record.Content → Nat
  | .exception, description => ExceptionDescription.length description
  | .execution _ _, result =>
      1 + ((Execution.exception result).map ExceptionDescription.length).getD 0
  | _, _ => 1

/-- Whether no row of exceptions is too long. -/
def IsShort : (record : PlainRecord) → record.Content → Prop
  | .execution kind bytesFree, result =>
      nesting (.execution kind bytesFree) result ≤ nestingLimit ∧ Execution.HasShortTests result
  | record, content => record.nesting content ≤ nestingLimit

variable {record : PlainRecord} {content : record.Content}

theorem isShort_execution {kind : Execution.Kind} {bytesFree : kind ≠ .module}
    {result : Execution} :
    IsShort (.execution kind bytesFree) result ↔
      (∀ description ∈ result.exception, description.length < nestingLimit) ∧
        result.HasShortTests :=
  and_congr_left fun _ => Execution.nesting_le_iff

/-! ## What was read -/

/-- Whatever was read keeps the rules. -/
theorem isSound_of_check {value : Value} (read : record.check value = .valid content) :
    record.IsSound content := by
  cases record with
  | project => exact Project.isNamed_of_check read
  | execution kind bytesFree => exact Execution.kind_of_check read
  | compiledScript => exact Compilation.isCompiled_of_checkCompiled read
  | notCompiled => exact Compilation.isCompiled_of_checkNotCompiled read
  | version => exact Version.isNamed_of_check read
  | configuration => exact Configuration.isSound_of_check read
  | _ => trivial

/-- Whatever was read tells of few exceptions. -/
theorem isShort_of_check {value : Value} (read : record.check value = .valid content) :
    record.IsShort content := by
  cases record with
  | exception => exact ExceptionDescription.length_of_checkNested read
  | execution kind bytesFree =>
      exact isShort_execution.mpr
        ⟨(Execution.parts_of_check read).1, Execution.hasShortTests_of_check read⟩
  | _ => exact Nat.le_of_ble_eq_true rfl

/-! ## Writing and reading back -/

/-- The form of a record is written unless it tells of too many exceptions. -/
theorem write_eq (record : PlainRecord) (content : record.Content) :
    record.write content =
      if record.nesting content ≤ nestingLimit then .ok (record.toDocument content)
      else .error .unwritable := by
  cases record with
  | exception =>
      rw [write, Wire.ofException, Wire.within, Option.map_some, Option.getD_some, Nat.zero_add]
      rfl
  | _ => rfl

theorem nesting_le_of_isShort (short : record.IsShort content) :
    record.nesting content ≤ nestingLimit := by
  cases record with
  | execution kind bytesFree => exact short.1
  | _ => exact short

/-- A record is read back from its wire form. -/
theorem check_toDocument (sound : record.IsSound content) (short : record.IsShort content) :
    record.check (record.toDocument content).toValue = .valid content := by
  cases record with
  | project => exact Project.check_toDocument sound
  | diagnostics => exact Diagnostics.check_toDocument content
  | diagnostic => exact Diagnostic.check_toDocument content
  | exception => exact ExceptionDescription.checkNested_toDocument content short
  | execution kind bytesFree =>
      obtain ⟨brief, shortTests⟩ := isShort_execution.mp short
      have kind_eq : Execution.kind content = kind := sound
      have read := Execution.check_toDocument (kind_eq ▸ bytesFree) brief shortTests
      rwa [kind_eq] at read
  | compiledScript =>
      cases content with
      | compiled script diagnostics =>
          exact Compilation.checkCompiled_toDocument diagnostics (Schema.text_toValue script)
      | notCompiled diagnostics => cases sound
  | notCompiled =>
      cases content with
      | compiled script diagnostics => cases sound
      | notCompiled diagnostics => exact Compilation.checkNotCompiled_toDocument .text diagnostics
  | completion => exact Completion.check_toDocument content
  | version => exact Version.check_toDocument sound
  | response => exact CompileResponse.check_toDocument content
  | configuration => exact Configuration.check_toDocument sound

theorem written_back (sound : record.IsSound content) (short : record.IsShort content) :
    ∃ document,
      record.write content = .ok document ∧ record.check document.toValue = .valid content := by
  refine ⟨record.toDocument content, ?_, check_toDocument sound short⟩
  rw [write_eq, if_pos (nesting_le_of_isShort short)]

/-- Whatever was read is written, and read again as it was. -/
theorem written_back_of_check {value : Value} (read : record.check value = .valid content) :
    ∃ document,
      record.write content = .ok document ∧ record.check document.toValue = .valid content :=
  written_back (isSound_of_check read) (isShort_of_check read)

/-- A record that keeps the rules is written and read back as it was, with its maps and lists
in their order, if it tells of few exceptions. If the row is too long it cannot be written. -/
theorem round_trip (record : PlainRecord) (content : record.Content)
    (sound : record.IsSound content) :
    (record.IsShort content → ∃ document,
      record.write content = .ok document ∧ record.check document.toValue = .valid content) ∧
    (nestingLimit < record.nesting content → record.write content = .error .unwritable) := by
  constructor
  · exact written_back sound
  · intro long
    rw [write_eq, if_neg (Nat.not_le_of_lt long)]

/-- A configuration with all its settings is read back. -/
theorem round_trip_settings :
    let settings : Configuration := {
      version := ⟨"2.1.0", "2.1.0-rc"⟩
      backends := ⟨"kit.jvm:compile", "kit.js:Compiler.run", "kit:wasm", "kit:complete", none⟩
      telemetry := .none
      logging := ⟨"DEBUG", true⟩ }
    ∃ document, PlainRecord.configuration.write settings = .ok document ∧
      PlainRecord.configuration.check document.toValue = .valid settings :=
  (round_trip .configuration _
    ⟨⟨by decide, by decide⟩, ⟨by decide, by decide, by decide, by decide, by simp⟩, by decide⟩).1
    (by decide : 1 ≤ nestingLimit)

/-! ## Long rows of exceptions -/

/-- A fault with others behind it, each the cause of the one before. -/
def faultChain : Nat → Exception
  | 0 => .mk "builtins.ValueError" (.ordinary "m") none none false
  | behind + 1 => .mk "builtins.ValueError" (.ordinary "m") (some (faultChain behind)) none true

theorem length_ofException_faultChain (behind : Nat) :
    (ExceptionDescription.ofException (faultChain behind)).length = behind + 1 := by
  induction behind with
  | zero => rfl
  | succ behind ih =>
      rw [faultChain, ExceptionDescription.ofException, ExceptionDescription.length, ih]

/-- The description of 256 exceptions keeps all rules, but it cannot be written. -/
theorem not_round_trip_faultChain :
    ¬ ∀ (record : PlainRecord) (content : record.Content), record.IsSound content →
      ∃ document,
        record.write content = .ok document ∧ record.check document.toValue = .valid content := by
  intro always
  obtain ⟨document, written, _⟩ :=
    always .exception (.ofException (faultChain nestingLimit)) trivial
  have long : ¬ PlainRecord.exception.nesting (.ofException (faultChain nestingLimit)) ≤
      nestingLimit := by
    rw [nesting, length_ofException_faultChain]
    exact Nat.not_succ_le_self nestingLimit
  rw [write_eq, if_neg long] at written
  cases written

end PlainRecord
end Multitarget
