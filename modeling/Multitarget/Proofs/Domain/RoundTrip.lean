import Multitarget.Domain.Configuration
import Multitarget.Domain.Project
import Multitarget.Domain.Wire
import Multitarget.Proofs.Schema.Reading
import Multitarget.Proofs.Schema.RoundTrip

/-!
# Reading records back

What each record is read as from its own wire form: the record itself, if it keeps the rules
that reading enforces and tells of no longer chain of exceptions than reading follows. Every
record that was read keeps those rules. The order of maps and lists is kept throughout.
-/

namespace Multitarget

open Schema (Checked Field of_record of_required of_defaulted of_optional of_list orNull)
open Json (Document)
open Json.Document (toEntries)

/-! ## Diagnostics -/

namespace Position

theorem check_toDocument (position : Position) :
    check position.toDocument.toValue = .valid position := by
  apply Schema.record_object rfl
  simp [Field.simple]

end Position

namespace Interval

theorem check_toDocument (interval : Interval) :
    check interval.toDocument.toValue = .valid interval := by
  apply Schema.record_object rfl
  simp [Field.simple, Position.check_toDocument]

end Interval

namespace Diagnostic

theorem toDocument_eq (diagnostic : Diagnostic) :
    diagnostic.toDocument = .object [
      ("interval", orNull Interval.toDocument diagnostic.interval),
      ("message", .text diagnostic.message),
      ("severity", .text diagnostic.severity.name),
      ("className", .ofText? diagnostic.className)] := by
  unfold toDocument
  cases diagnostic.interval <;> rfl

theorem check_toDocument (diagnostic : Diagnostic) :
    check diagnostic.toDocument.toValue = .valid diagnostic := by
  have place : Schema.optional Interval.check
      (orNull Interval.toDocument diagnostic.interval).toValue = .valid diagnostic.interval :=
    Schema.optional_orNull (by simp [Interval.toDocument, Document.toValue])
      fun interval _ => interval.check_toDocument
  have grade : Schema.choice severityChoices (Document.text diagnostic.severity.name).toValue =
      .valid diagnostic.severity := by
    cases diagnostic.severity <;> rfl
  rw [toDocument_eq]
  apply Schema.record_object rfl
  simp [Field.simple, place, grade]

end Diagnostic

namespace Diagnostics

theorem check_toDocument (diagnostics : Diagnostics) :
    check diagnostics.toDocument.toValue = .valid diagnostics := by
  have lists : Schema.map (Schema.list Diagnostic.check)
      (Document.object (diagnostics.byFile.entries.map fun entry =>
        (entry.1, .array (entry.2.map Diagnostic.toDocument)))).toValue =
      .valid diagnostics.byFile :=
    Schema.map_object (fun list => .array (list.map Diagnostic.toDocument)) diagnostics.byFile
      fun _ _ => Schema.list_array fun diagnostic _ => diagnostic.check_toDocument
  apply Schema.record_object rfl
  simp [Field.simple, lists]

end Diagnostics

/-! ## Descriptions of exceptions -/

namespace ExceptionDescription

/-- Reads what may be behind an exception. -/
def checkCause : Nat → Value → Checked (Option ExceptionDescription)
  | _, .null => .valid none
  | 0, _ => .fail .nestedTooDeep
  | inner + 1, value => (checkNested inner value).map some

theorem entry_checkCauses (name : String) (inner : Nat) (entries : List (Value × Value)) :
    Schema.entry name (checkCauses inner entries) =
      (Schema.entry name entries).map (checkCause inner) := by
  induction entries with
  | nil => simp [checkCauses, Schema.entry]
  | cons head rest ih =>
      obtain ⟨key, value⟩ := head
      have step : checkCauses inner ((key, value) :: rest) =
          (key, checkCause inner value) :: checkCauses inner rest := by
        cases inner <;> cases value <;> simp [checkCauses, checkCause]
      rw [step]
      cases key with
      | text other => by_cases here : other = name <;> simp [Schema.entry, here, ih]
      | _ => simpa [Schema.entry] using ih

theorem texts_check (texts : List String) :
    Schema.list Schema.text (Document.array (texts.map .text)).toValue = .valid texts :=
  Schema.list_array fun _ _ => rfl

theorem toDocument_eq (message : Option String) (fullName : String) (stackTrace : List String)
    (cause : Option ExceptionDescription) :
    (mk message fullName stackTrace cause).toDocument = .object [
      ("message", .ofText? message),
      ("fullName", .text fullName),
      ("stackTrace", .array (stackTrace.map .text)),
      ("cause", orNull toDocument cause)] := by
  cases cause <;> simp [toDocument, orNull]

theorem toValue_ne_null (description : ExceptionDescription) :
    description.toDocument.toValue ≠ .null := by
  obtain ⟨message, fullName, stackTrace, cause⟩ := description
  simp [toDocument_eq, Document.toValue]

/-- A field of what is behind an exception is read as such. -/
theorem defaulted_checkCauses (inner : Nat) (entries : List (Value × Value)) (field : Field) :
    Schema.defaulted (checkCauses inner entries) field none id =
      Schema.defaulted entries field none (checkCause inner) := by
  unfold Schema.defaulted Field.entry
  simp only [entry_checkCauses]
  cases Schema.entry field.wire entries with
  | some value => rfl
  | none => cases Schema.entry field.plain entries <;> rfl

/-- A description is a record like any other. -/
theorem checkNested_eq (inner : Nat) :
    checkNested inner = Schema.record "ExceptionDescriptor" fields fun entries =>
      ExceptionDescription.mk
        <$> Schema.defaulted entries (.simple "message") none (Schema.optional Schema.text)
        <*> Schema.required entries ⟨"fullName", "full_name"⟩ Schema.text
        <*> Schema.defaulted entries ⟨"stackTrace", "stack_trace"⟩ [] (Schema.list Schema.text)
        <*> Schema.defaulted entries (.simple "cause") none (checkCause inner) := by
  funext value
  cases value with
  | map entries => rw [checkNested, defaulted_checkCauses, Schema.record]
  | _ => simp [checkNested, Schema.record]

/-- A description is read back if what is behind it is. -/
theorem checkNested_mk {inner : Nat} {cause : Option ExceptionDescription}
    (message : Option String) (fullName : String) (stackTrace : List String)
    (behind : checkCause inner (orNull toDocument cause).toValue = .valid cause) :
    checkNested inner (mk message fullName stackTrace cause).toDocument.toValue =
      .valid (mk message fullName stackTrace cause) := by
  rw [toDocument_eq, checkNested_eq]
  apply Schema.record_object rfl
  simp [Field.simple, texts_check, behind]

theorem length_pos (description : ExceptionDescription) : 0 < description.length := by
  obtain ⟨_, _, _, cause⟩ := description
  cases cause <;> simp [length]

theorem checkCause_succ {value : Value} (something : value ≠ .null) (inner : Nat) :
    checkCause (inner + 1) value = (checkNested inner value).map some := by
  cases value with
  | null => exact absurd rfl something
  | _ => rfl

/-- A description is read back where it is not too long. -/
theorem checkNested_toDocument (description : ExceptionDescription) {inner : Nat}
    (short : description.length ≤ inner + 1) :
    checkNested inner description.toDocument.toValue = .valid description := by
  match description with
  | .mk message fullName stackTrace none => exact checkNested_mk _ _ _ rfl
  | .mk message fullName stackTrace (some cause) =>
      rw [length] at short
      cases inner with
      | zero => exact absurd short (Nat.not_le_of_gt (Nat.succ_lt_succ cause.length_pos))
      | succ inner =>
          have read := cause.checkNested_toDocument (Nat.le_of_succ_le_succ short)
          apply checkNested_mk
          rw [orNull, checkCause_succ cause.toValue_ne_null, read, Checked.map_valid]

theorem length_eq (description : ExceptionDescription) :
    description.length = (description.cause.map length).getD 0 + 1 := by
  obtain ⟨_, _, _, _ | cause⟩ := description <;> simp [length, ExceptionDescription.cause]

theorem cause_of_checkNested {description : ExceptionDescription} {inner : Nat} {value : Value}
    (read : checkNested inner value = .valid description) :
    description.cause = none ∨ ∃ value, checkCause inner value = .valid description.cause := by
  rw [checkNested_eq] at read
  obtain ⟨entries, fields⟩ := of_record read
  obtain ⟨_, cause, three, last, rfl⟩ := Checked.of_seq fields
  obtain ⟨_, stackTrace, two, _, rfl⟩ := Checked.of_seq three
  obtain ⟨_, fullName, one, _, rfl⟩ := Checked.of_seq two
  obtain ⟨message, _, rfl⟩ := Checked.of_map one
  exact of_defaulted last

theorem of_checkCause {inner : Nat} {value : Value} {description : ExceptionDescription}
    (read : checkCause inner value = .valid (some description)) :
    ∃ less, inner = less + 1 ∧ checkNested less value = .valid description := by
  by_cases nothing : value = .null
  · simp [nothing, checkCause] at read
  · cases inner with
    | zero =>
        cases value with
        | null => exact absurd rfl nothing
        | _ => simp [checkCause, Checked.fail] at read
    | succ less =>
        rw [checkCause_succ nothing] at read
        obtain ⟨found, nested, same⟩ := Checked.of_map read
        rw [Option.some.inj same] at nested
        exact ⟨less, rfl, nested⟩

/-- A description that was read is not too long. -/
theorem length_of_checkNested {description : ExceptionDescription} {inner : Nat} {value : Value}
    (read : checkNested inner value = .valid description) : description.length ≤ inner + 1 := by
  rw [length_eq]
  cases behind : description.cause with
  | none => simp
  | some cause =>
      obtain ⟨value, checked⟩ := (cause_of_checkNested read).resolve_left (by simp [behind])
      obtain ⟨less, rfl, nested⟩ := of_checkCause (behind ▸ checked)
      have shorter := length_of_checkNested nested
      simpa using shorter
termination_by inner

end ExceptionDescription

/-! ## Executions -/

namespace TestOutcome

theorem toDocument_eq (outcome : TestOutcome) :
    outcome.toDocument = .object [
      ("className", .text outcome.className),
      ("methodName", .text outcome.methodName),
      ("status", .text outcome.status.name),
      ("output", .text outcome.output),
      ("exception", orNull ExceptionDescription.toDocument outcome.exception),
      ("executionTime", .int outcome.milliseconds)] := by
  unfold toDocument
  cases outcome.exception <;> rfl

end TestOutcome

namespace ExceptionDescription

/-- What is told of an exception inside another record is read back where it is not too long. -/
theorem checkInside_orNull {described : Option ExceptionDescription}
    (short : ∀ description ∈ described, description.length < nestingLimit) :
    Schema.optional checkInside (orNull toDocument described).toValue = .valid described := by
  apply Schema.optional_orNull toValue_ne_null
  intro description present
  exact checkNested_toDocument description (Nat.le_of_lt_succ (short description present))

theorem length_of_checkInside {described : Option ExceptionDescription}
    {entries : List (Value × Value)} {field : Field}
    (read : Schema.defaulted entries field none (Schema.optional checkInside) =
      .valid described) :
    ∀ description ∈ described, description.length < nestingLimit := by
  rintro description rfl
  rcases of_defaulted read with nothing | ⟨value, checked⟩
  · simp at nothing
  · exact Nat.lt_succ_of_le (length_of_checkNested (of_optional checked))

end ExceptionDescription

namespace TestOutcome

theorem check_toDocument {outcome : TestOutcome}
    (short : ∀ description ∈ outcome.exception,
      description.length < ExceptionDescription.nestingLimit) :
    check outcome.toDocument.toValue = .valid outcome := by
  have verdict : Schema.choice (TestStatus.all.map fun status => (status.name, status))
      (Document.text outcome.status.name).toValue = .valid outcome.status := by
    cases outcome.status <;> rfl
  have described := ExceptionDescription.checkInside_orNull short
  rw [toDocument_eq]
  apply Schema.record_object rfl
  simp [Field.simple, verdict, described]

theorem length_of_check {outcome : TestOutcome} {value : Value}
    (read : check value = .valid outcome) :
    ∀ description ∈ outcome.exception,
      description.length < ExceptionDescription.nestingLimit := by
  obtain ⟨entries, fields⟩ := of_record read
  obtain ⟨_, milliseconds, five, _, rfl⟩ := Checked.of_seq fields
  obtain ⟨_, exception, four, described, rfl⟩ := Checked.of_seq five
  obtain ⟨_, output, three, _, rfl⟩ := Checked.of_seq four
  obtain ⟨_, status, two, _, rfl⟩ := Checked.of_seq three
  obtain ⟨_, methodName, one, _, rfl⟩ := Checked.of_seq two
  obtain ⟨className, _, rfl⟩ := Checked.of_map one
  exact ExceptionDescription.length_of_checkInside described

end TestOutcome

namespace Execution

/-- The members of the wire form of an execution. -/
def members (execution : Execution) : List (String × Document) :=
  [("compilerDiagnostics", execution.diagnostics.toDocument),
    ("text", .text execution.text),
    ("exception", orNull ExceptionDescription.toDocument execution.exception),
    ("jvmByteCode", .ofText? execution.byteCode)] ++ payloadMembers execution.payload

theorem toDocument_eq (execution : Execution) :
    execution.toDocument = .object execution.members := by
  unfold toDocument members
  cases execution.exception <;> rfl

/-- An execution is one more record around the exception that it tells of. -/
theorem nesting_le_iff {execution : Execution} :
    1 + (execution.exception.map ExceptionDescription.length).getD 0 ≤
        ExceptionDescription.nestingLimit ↔
      ∀ description ∈ execution.exception,
        description.length < ExceptionDescription.nestingLimit := by
  cases execution.exception with
  | none => simp [ExceptionDescription.nestingLimit]
  | some description => simp [Nat.one_add_le_iff]

/-- An execution is read back but for its payload, which is what is read of it. -/
theorem check_of_payload {execution : Execution} {payload : Payload}
    (short : ∀ description ∈ execution.exception,
      description.length < ExceptionDescription.nestingLimit)
    (reads : execution.kind.checkPayload (toEntries execution.members) = .valid payload) :
    check execution.kind execution.toDocument.toValue = .valid { execution with payload } := by
  have named : execution.members.map Prod.fst =
      (commonFields ++ execution.kind.fields).map Field.wire := by
    unfold members kind
    cases execution.payload <;> rfl
  have described := ExceptionDescription.checkInside_orNull short
  rw [toDocument_eq]
  apply Schema.record_object named
  rw [reads]
  simp [Field.simple, members, checkDiagnostics, diagnosticsField, textField,
    Diagnostics.check_toDocument, described]

theorem parts_of_check {kind : Kind} {execution : Execution} {value : Value}
    (read : check kind value = .valid execution) :
    (∀ description ∈ execution.exception,
      description.length < ExceptionDescription.nestingLimit) ∧
    ∃ entries, kind.checkPayload entries = .valid execution.payload := by
  obtain ⟨entries, fields⟩ := of_record read
  obtain ⟨_, payload, common, checked, rfl⟩ := Checked.of_seq fields
  obtain ⟨_, byteCode, three, _, rfl⟩ := Checked.of_seq common
  obtain ⟨_, exception, two, described, rfl⟩ := Checked.of_seq three
  obtain ⟨_, text, one, _, rfl⟩ := Checked.of_seq two
  obtain ⟨diagnostics, _, rfl⟩ := Checked.of_map one
  exact ⟨ExceptionDescription.length_of_checkInside described, entries, checked⟩

theorem kind_of_check {kind : Kind} {execution : Execution} {value : Value}
    (read : check kind value = .valid execution) : execution.kind = kind := by
  obtain ⟨_, entries, checked⟩ := parts_of_check read
  obtain ⟨diagnostics, text, exception, byteCode, payload⟩ := execution
  cases kind with
  | plain =>
      obtain rfl := Checked.valid.inj checked
      rfl
  | tests | script =>
      obtain ⟨_, _, rfl⟩ := Checked.of_map checked
      rfl
  | module =>
      obtain ⟨_, _, parts, _, rfl⟩ := Checked.of_seq checked
      obtain ⟨_, _, scripts, _, rfl⟩ := Checked.of_seq parts
      obtain ⟨_, _, script, _, rfl⟩ := Checked.of_seq scripts
      obtain ⟨_, _, rfl⟩ := Checked.of_map script
      rfl

/-- Whether the exceptions of all test outcomes are told of briefly enough. -/
def HasShortTests (execution : Execution) : Prop :=
  ∀ results, execution.payload = .tests results → ∀ entry ∈ results.entries,
    ∀ outcome ∈ entry.2, ∀ description ∈ outcome.exception,
      description.length < ExceptionDescription.nestingLimit

theorem hasShortTests_of_check {kind : Kind} {execution : Execution} {value : Value}
    (read : check kind value = .valid execution) : execution.HasShortTests := by
  intro results carried entry listed outcome present
  have kind_eq : kind = .tests := by rw [← kind_of_check read, Execution.kind, carried]
  subst kind_eq
  obtain ⟨_, entries, checked⟩ := parts_of_check read
  obtain ⟨found, tests, same⟩ := Checked.of_map checked
  obtain rfl := Payload.tests.inj (same.trans carried)
  rcases of_defaulted tests with rfl | ⟨value, mapped⟩
  · simp at listed
  · obtain ⟨_, outcomes⟩ := Schema.of_keyed mapped entry listed
    obtain ⟨_, checked⟩ := of_list outcomes outcome present
    exact TestOutcome.length_of_check checked

theorem checkPayload_members {execution : Execution} (bytesFree : execution.kind ≠ .module)
    (shortTests : execution.HasShortTests) :
    execution.kind.checkPayload (toEntries execution.members) = .valid execution.payload := by
  obtain ⟨diagnostics, text, exception, byteCode, payload⟩ := execution
  cases payload with
  | none => rfl
  | tests results =>
      have tests : Schema.map (Schema.list TestOutcome.check)
          (Document.object (results.entries.map fun entry =>
            (entry.1, .array (entry.2.map TestOutcome.toDocument)))).toValue = .valid results :=
        Schema.map_object (fun outcomes => .array (outcomes.map TestOutcome.toDocument)) results
          fun entry listed => Schema.list_array fun outcome present =>
            TestOutcome.check_toDocument (shortTests results rfl entry listed outcome present)
      simp [kind, Kind.checkPayload, members, payloadMembers, tests]
  | script code => simp [kind, Kind.checkPayload, members, payloadMembers, textField]
  | module => exact absurd rfl bytesFree

/-- An execution without bytes is read back if what it tells of exceptions is not too long. -/
theorem check_toDocument {execution : Execution} (bytesFree : execution.kind ≠ .module)
    (short : ∀ description ∈ execution.exception,
      description.length < ExceptionDescription.nestingLimit)
    (shortTests : execution.HasShortTests) :
    check execution.kind execution.toDocument.toValue = .valid execution :=
  check_of_payload short (checkPayload_members bytesFree shortTests)

end Execution

/-! ## Compilations -/

namespace Compilation

variable {α : Type}

theorem isCompiled_of_checkCompiled {check : Value → Checked α} {name : String} {value : Value}
    {compilation : Compilation α} (read : checkCompiled name check value = .valid compilation) :
    compilation.isCompiled = true := by
  obtain ⟨entries, fields⟩ := of_record read
  obtain ⟨_, result, first, _, rfl⟩ := Checked.of_seq fields
  obtain ⟨diagnostics, _, rfl⟩ := Checked.of_map first
  rfl

theorem isCompiled_of_checkNotCompiled {value : Value} {compilation : Compilation α}
    (read : checkNotCompiled value = .valid compilation) : compilation.isCompiled = false := by
  obtain ⟨entries, fields⟩ := of_record read
  obtain ⟨diagnostics, _, rfl⟩ := Checked.of_map fields
  rfl

theorem checkCompiled_toDocument {check : Value → Checked α} {write : α → Document} {name : String}
    {result read : α} (diagnostics : Diagnostics)
    (reads : check (write result).toValue = .valid read) :
    checkCompiled name check ((compiled result diagnostics).toDocument write).toValue =
      .valid (compiled read diagnostics) := by
  apply Schema.record_object rfl
  simp [Field.simple, checkDiagnostics, diagnosticsField, Diagnostics.check_toDocument, reads]

theorem checkNotCompiled_toDocument (write : α → Document) (diagnostics : Diagnostics) :
    checkNotCompiled ((notCompiled diagnostics : Compilation α).toDocument write).toValue =
      .valid (notCompiled diagnostics : Compilation α) := by
  apply Schema.record_object rfl
  simp [checkDiagnostics, diagnosticsField, Diagnostics.check_toDocument]

end Compilation

namespace CompileResponse

theorem check_toDocument (response : CompileResponse) :
    check response.toDocument.toValue = .valid response := by
  apply Schema.record_object rfl
  simp [Field.simple]

end CompileResponse

/-! ## Completions and versions -/

namespace Completion

theorem check_toDocument (completion : Completion) :
    check completion.toDocument.toValue = .valid completion := by
  apply Schema.record_object rfl
  simp [Field.simple]

end Completion

namespace Version

/-- Whether a version says something. -/
def IsNamed (version : Version) : Prop := version.compiler ≠ "" ∧ version.library ≠ ""

theorem isNamed_of_check {version : Version} {value : Value}
    (read : check value = .valid version) : version.IsNamed := by
  obtain ⟨entries, fields⟩ := of_record read
  obtain ⟨_, library, before, second, rfl⟩ := Checked.of_seq fields
  obtain ⟨compiler, first, rfl⟩ := Checked.of_map before
  obtain ⟨_, named⟩ := of_required first
  obtain ⟨_, namedLibrary⟩ := of_required second
  exact ⟨Schema.of_fullText named, Schema.of_fullText namedLibrary⟩

theorem check_toDocument {version : Version} (named : version.IsNamed) :
    check version.toDocument.toValue = .valid version := by
  apply Schema.record_object rfl
  simp [Field.simple, Schema.fullText, named.1, named.2]

end Version

/-! ## Projects -/

namespace ProjectFile

theorem name_ne_of_check {file : ProjectFile} {value : Value}
    (read : check value = .valid file) : file.name ≠ "" := by
  obtain ⟨entries, fields⟩ := of_record read
  obtain ⟨_, text, before, _, rfl⟩ := Checked.of_seq fields
  obtain ⟨name, first, rfl⟩ := Checked.of_map before
  obtain ⟨_, named⟩ := of_required first
  exact Schema.of_fullText named

theorem check_toDocument {file : ProjectFile} (named : file.name ≠ "") :
    check file.toDocument.toValue = .valid file := by
  apply Schema.record_object rfl
  simp [Field.simple, Schema.fullText, named]

end ProjectFile

namespace Project

/-- Whether all files of a project have a name. -/
def IsNamed (project : Project) : Prop := ∀ file ∈ project.files, file.name ≠ ""

theorem isNamed_of_check {project : Project} {value : Value}
    (read : check value = .valid project) : project.IsNamed := by
  obtain ⟨entries, fields⟩ := of_record read
  obtain ⟨_, addClasspath, three, _, rfl⟩ := Checked.of_seq fields
  obtain ⟨_, target, two, _, rfl⟩ := Checked.of_seq three
  obtain ⟨_, files, one, second, rfl⟩ := Checked.of_seq two
  obtain ⟨arguments, _, rfl⟩ := Checked.of_map one
  intro file listed
  rcases of_defaulted second with rfl | ⟨other, checked⟩
  · simp at listed
  · obtain ⟨found, listing, distinct⟩ := Checked.of_bind checked
    split at distinct
    next => simp [Checked.fail] at distinct
    next =>
      obtain rfl := Checked.valid.inj distinct
      obtain ⟨_, named⟩ := of_list listing file listed
      exact ProjectFile.name_ne_of_check named

theorem checkFiles_toDocument {project : Project} (named : project.IsNamed) :
    checkFiles (Document.array (project.files.map ProjectFile.toDocument)).toValue =
      .valid ⟨project.files, project.distinct⟩ := by
  have listed : Schema.list ProjectFile.check
      (Document.array (project.files.map ProjectFile.toDocument)).toValue = .valid project.files :=
    Schema.list_array fun file present => ProjectFile.check_toDocument (named file present)
  have fresh : ProjectFile.repeatedName [] project.files = none :=
    (ProjectFile.repeatedName_eq_none [] project.files).mpr ⟨project.distinct, by simp⟩
  rw [checkFiles, listed, Checked.bind_valid]
  split
  next name repeated => simp [fresh] at repeated
  next => rfl

theorem check_toDocument {project : Project} (named : project.IsNamed) :
    check project.toDocument.toValue = .valid project := by
  have target : Schema.choice targetChoices (Document.text project.target.name).toValue =
      .valid project.target := by
    cases project.target <;> rfl
  apply Schema.record_object rfl
  simp [Field.simple, target, checkFiles_toDocument named]

end Project

/-! ## Configurations -/

namespace BackendReferences

/-- Whether all references have the form of one. -/
def AreReferences (references : BackendReferences) : Prop :=
  Reference.isReference references.jvm = true ∧ Reference.isReference references.js = true ∧
    Reference.isReference references.wasm = true ∧
    Reference.isReference references.completion = true ∧
    ∀ reference ∈ references.environment, Reference.isReference reference = true

theorem areReferences_of_check {references : BackendReferences} {value : Value}
    (read : check value = .valid references) : references.AreReferences := by
  obtain ⟨entries, fields⟩ := of_record read
  obtain ⟨_, environment, four, fifth, rfl⟩ := Checked.of_seq fields
  obtain ⟨_, completion, three, fourth, rfl⟩ := Checked.of_seq four
  obtain ⟨_, wasm, two, third, rfl⟩ := Checked.of_seq three
  obtain ⟨_, js, one, second, rfl⟩ := Checked.of_seq two
  obtain ⟨jvm, first, rfl⟩ := Checked.of_map one
  have isReference : ∀ {field : Field} {reference : String},
      Schema.required entries field checkReference = .valid reference →
      Reference.isReference reference = true := by
    intro field reference checked
    obtain ⟨_, matched⟩ := of_required checked
    exact Schema.of_matching matched
  refine ⟨isReference first, isReference second, isReference third, isReference fourth, ?_⟩
  intro reference present
  rcases of_defaulted fifth with left | ⟨_, checked⟩
  · simp [left] at present
  · obtain rfl : environment = some reference := present
    exact Schema.of_matching (of_optional checked)

theorem check_toDocument {references : BackendReferences} (named : references.AreReferences) :
    check references.toDocument.toValue = .valid references := by
  obtain ⟨jvm, js, wasm, completion, environment⟩ := named
  have required : ∀ {reference : String}, Reference.isReference reference = true →
      checkReference (Document.text reference).toValue = .valid reference := by
    intro reference named
    simp [checkReference, Schema.matching, named]
  have optional : Schema.optional checkReference (Document.ofText? references.environment).toValue =
      .valid references.environment := by
    cases known : references.environment with
    | none => rfl
    | some reference =>
        have named := environment reference (by simp [known])
        exact congrArg (Checked.map some) (required named)
  apply Schema.record_object rfl
  simp [Field.simple, required jvm, required js, required wasm, required completion, optional]

end BackendReferences

namespace LogSettings

theorem level_of_check {settings : LogSettings} {value : Value}
    (read : check value = .valid settings) : settings.level ∈ levelNames := by
  obtain ⟨entries, fields⟩ := of_record read
  obtain ⟨_, asJson, before, _, rfl⟩ := Checked.of_seq fields
  obtain ⟨level, first, rfl⟩ := Checked.of_map before
  rcases of_defaulted first with rfl | ⟨_, checked⟩
  · exact (by decide : "INFO" ∈ levelNames)
  · obtain ⟨name, _, checked⟩ := Checked.of_bind checked
    split at checked
    next known =>
      obtain rfl := Checked.valid.inj checked
      simpa using known
    next => simp [Checked.fail] at checked

theorem check_toDocument {settings : LogSettings} (known : settings.level ∈ levelNames) :
    check settings.toDocument.toValue = .valid settings := by
  have level : checkLevel (Document.text settings.level).toValue = .valid settings.level := by
    simp only [levelNames, List.mem_cons, List.not_mem_nil, or_false] at known
    rcases known with name | name | name | name | name <;> rw [name] <;> rfl
  apply Schema.record_object rfl
  simp [Field.simple, level]

end LogSettings

namespace Configuration

/-- Whether the parts of a configuration are what can be read. -/
structure IsSound (configuration : Configuration) : Prop where
  version : configuration.version.IsNamed
  backends : configuration.backends.AreReferences
  level : configuration.logging.level ∈ LogSettings.levelNames

theorem isSound_of_check {configuration : Configuration} {value : Value}
    (read : check value = .valid configuration) : configuration.IsSound := by
  obtain ⟨entries, fields⟩ := of_record read
  obtain ⟨_, logging, three, fourth, rfl⟩ := Checked.of_seq fields
  obtain ⟨_, telemetry, two, _, rfl⟩ := Checked.of_seq three
  obtain ⟨_, backends, one, second, rfl⟩ := Checked.of_seq two
  obtain ⟨version, first, rfl⟩ := Checked.of_map one
  obtain ⟨_, named⟩ := of_required first
  obtain ⟨_, references⟩ := of_required second
  refine ⟨Version.isNamed_of_check named, BackendReferences.areReferences_of_check references, ?_⟩
  rcases of_defaulted fourth with rfl | ⟨_, settings⟩
  · exact (by decide : LogSettings.default.level ∈ LogSettings.levelNames)
  · exact LogSettings.level_of_check settings

theorem check_toDocument {configuration : Configuration} (sound : configuration.IsSound) :
    check configuration.toDocument.toValue = .valid configuration := by
  have mode : Schema.choice (TelemetryMode.all.map fun mode => (mode.name, mode))
      (Document.text configuration.telemetry.name).toValue = .valid configuration.telemetry := by
    cases configuration.telemetry <;> rfl
  apply Schema.record_object rfl
  simp [Field.simple, mode, Version.check_toDocument sound.version,
    BackendReferences.check_toDocument sound.backends, LogSettings.check_toDocument sound.level]

end Configuration

end Multitarget
