import Multitarget.Domain.Catalog
import Multitarget.Proofs.Domain.Report
import Multitarget.Proofs.Domain.RoundTrip

/-!
# Records with bytes

Bytes are written as base 64 text, but a text is read as the bytes of its own encoding.
A record that holds bytes is therefore read back with other bytes in their places: those of
the texts that were written. Everything else in it is read back as it was.
-/

namespace Multitarget

open Schema (Checked orNull)
open Json (Document)
open Json.Document (toEntries)
open ExceptionDescription (nestingLimit)
open Text (Bytes)

/-! ## Bytes -/

theorem Text.Base64.length_encode (bytes : Bytes) :
    (encode bytes).length = 4 * ((bytes.length + 2) / 3) := by
  induction bytes using encode.induct with
  | case1 | case2 | case3 => simp [encode]
  | case4 a b c rest ih =>
      simp only [encode, List.length_cons, ih]
      omega

theorem Text.Utf8.length_le_encodeChars (text : List Char) :
    text.length ≤ (encodeChars text).length := by
  induction text with
  | nil => exact Nat.zero_le _
  | cons character rest ih =>
      have lead := List.length_pos_iff.mpr (encodeChar_ne_nil character)
      simp only [encodeChars, List.flatMap_cons, List.length_append, List.length_cons] at ih ⊢
      omega

/-- The bytes of the text that bytes are written as. -/
def writtenBytes (bytes : Bytes) : Bytes :=
  Text.Utf8.encode (String.ofList (Text.Base64.encode bytes))

theorem bytes_bytesDocument (bytes : Bytes) :
    Schema.bytes (bytesDocument bytes).toValue = .valid (writtenBytes bytes) := rfl

/-- Only no bytes are written as they are: the text of any others is longer. -/
theorem writtenBytes_eq_iff {bytes : Bytes} : writtenBytes bytes = bytes ↔ bytes = [] := by
  constructor
  · intro same
    have longer := Text.Utf8.length_le_encodeChars (Text.Base64.encode bytes)
    have kept : (Text.Utf8.encodeChars (Text.Base64.encode bytes)).length = bytes.length := by
      simpa [writtenBytes, Text.Utf8.encode] using congrArg List.length same
    rw [kept, Text.Base64.length_encode] at longer
    exact List.eq_nil_of_length_eq_zero (by omega)
  · rintro rfl
    rfl

/-! ## Bytes in their places -/

namespace Keyed

variable {α : Type}

theorem mapValues_eq_iff {map : Keyed α} {change : α → α} :
    map.mapValues change = map ↔ ∀ value ∈ map.values, change value = value := by
  constructor
  · intro same value listed
    obtain ⟨entry, present, rfl⟩ := List.mem_map.mp listed
    have each : map.entries.map (fun entry => (entry.1, change entry.2)) = map.entries.map id := by
      rw [List.map_id, ← entries_mapValues, same]
    exact congrArg Prod.snd (List.map_inj_left.mp each entry present)
  · intro kept
    apply ext
    rw [entries_mapValues]
    conv => rhs; rw [← List.map_id map.entries]
    exact List.map_congr_left fun entry present =>
      Prod.ext rfl (kept entry.2 (List.mem_map_of_mem present))

end Keyed

namespace ClassFiles

/-- Class files with their bytes changed. -/
def mapBytes (change : Bytes → Bytes) (classes : ClassFiles) : ClassFiles :=
  { classes with files := classes.files.mapValues change }

theorem mapBytes_eq_iff {change : Bytes → Bytes} {classes : ClassFiles} :
    classes.mapBytes change = classes ↔ ∀ bytes ∈ classes.files.values, change bytes = bytes := by
  rw [← Keyed.mapValues_eq_iff]
  exact ⟨congrArg ClassFiles.files, fun same => by rw [mapBytes, same]⟩

theorem check_toDocument (classes : ClassFiles) :
    check classes.toDocument.toValue = .valid (classes.mapBytes writtenBytes) := by
  have files : Schema.map Schema.bytes (Document.object (classes.files.entries.map fun entry =>
      (entry.1, bytesDocument entry.2))).toValue =
      .valid (classes.files.mapValues writtenBytes) :=
    Schema.map_object_mapValues bytesDocument writtenBytes classes.files
      fun entry _ => bytes_bytesDocument entry.2
  apply Schema.record_object rfl
  simp [Schema.Field.simple, files, mapBytes]

end ClassFiles

namespace WasmModule

/-- A module with its bytes changed. -/
def mapBytes (change : Bytes → Bytes) (module : WasmModule) : WasmModule :=
  { module with binary := change module.binary }

theorem mapBytes_eq_iff {change : Bytes → Bytes} {module : WasmModule} :
    module.mapBytes change = module ↔ change module.binary = module.binary :=
  ⟨congrArg WasmModule.binary, fun same => by rw [mapBytes, same]⟩

theorem check_toDocument (module : WasmModule) :
    check module.toDocument.toValue = .valid (module.mapBytes writtenBytes) := by
  apply Schema.record_object rfl
  simp [Schema.Field.simple, bytes_bytesDocument, mapBytes]

end WasmModule

/-- What an execution carries with its bytes changed. -/
def Payload.mapBytes (change : Bytes → Bytes) : Payload → Payload
  | .module code instantiation binary textForm =>
      .module code instantiation (binary.map change) textForm
  | other => other

namespace Execution

/-- An execution with its bytes changed. -/
def mapBytes (change : Bytes → Bytes) (execution : Execution) : Execution :=
  { execution with payload := execution.payload.mapBytes change }

/-- The bytes that an execution carries. -/
def binaries (execution : Execution) : List Bytes :=
  match execution.payload with
  | .module _ _ binary _ => binary.toList
  | _ => []

theorem mapBytes_eq_iff {change : Bytes → Bytes} {execution : Execution} :
    execution.mapBytes change = execution ↔ ∀ bytes ∈ execution.binaries, change bytes = bytes := by
  obtain ⟨diagnostics, text, exception, byteCode, payload⟩ := execution
  cases payload with
  | module script instantiation binary textForm =>
      cases binary <;> simp [mapBytes, Payload.mapBytes, binaries]
  | _ => simp [mapBytes, Payload.mapBytes, binaries]

theorem payloadMembers_module (code instantiation : Option String) (binary : Option Bytes)
    (textForm : Option String) :
    payloadMembers (.module code instantiation binary textForm) =
      [("jsCode", .ofText? code), ("jsInstantiated", .ofText? instantiation),
        ("wasm", orNull bytesDocument binary), ("wat", .ofText? textForm)] := by
  cases binary <;> rfl

theorem check_toDocument_module {execution : Execution} (isModule : execution.kind = .module)
    (short : ∀ description ∈ execution.exception, description.length < nestingLimit) :
    check .module execution.toDocument.toValue = .valid (execution.mapBytes writtenBytes) := by
  have reads : execution.kind.checkPayload (toEntries execution.members) =
      .valid (execution.payload.mapBytes writtenBytes) := by
    obtain ⟨diagnostics, text, exception, byteCode, payload⟩ := execution
    cases payload with
    | module code instantiation binary textForm =>
        have bytes : Schema.optional Schema.bytes (orNull bytesDocument binary).toValue =
            .valid (binary.map writtenBytes) :=
          Schema.optional_orNull_map (by simp [bytesDocument, Document.toValue])
            fun bytes _ => bytes_bytesDocument bytes
        simp [kind, Kind.checkPayload, members, payloadMembers_module, textField, Payload.mapBytes,
          Schema.Field.simple, bytes]
    | _ => cases isModule
  rw [← isModule]
  exact check_of_payload short reads

end Execution

/-! ## The records -/

/-- The records that hold bytes. -/
inductive BinaryRecord where
  | classFiles
  | wasmModule
  | translation
  | compiledClasses

namespace BinaryRecord

/-- The name of a record in the catalog. -/
def name : BinaryRecord → String
  | .classFiles => "JvmClasses"
  | .wasmModule => "WasmTranslationOutput"
  | .translation => Execution.Kind.module.name
  | .compiledClasses => "CompiledClasses"

/-- What a record holds. -/
abbrev Content : BinaryRecord → Type
  | .classFiles => ClassFiles
  | .wasmModule => WasmModule
  | .translation => Execution
  | .compiledClasses => Compilation ClassFiles

/-- Reads a record. -/
def check : (record : BinaryRecord) → Value → Checked record.Content
  | .classFiles => ClassFiles.check
  | .wasmModule => WasmModule.check
  | .translation => Execution.check .module
  | .compiledClasses => Compilation.checkCompiled "Compiled[JvmClasses]" ClassFiles.check

/-- The wire form of a record. -/
def toDocument : (record : BinaryRecord) → record.Content → Document
  | .classFiles => ClassFiles.toDocument
  | .wasmModule => WasmModule.toDocument
  | .translation => Execution.toDocument
  | .compiledClasses => Compilation.toDocument ClassFiles.toDocument

/-- Writes a record, if not too many stand inside each other. -/
def write (record : BinaryRecord) (content : record.Content) : Except Fault Document :=
  match record, content with
  | .translation, result => Wire.ofExecution result
  | record, content => .ok (record.toDocument content)

/-- These are the records of the catalog. -/
theorem find?_name (record : BinaryRecord) :
    Catalog.find? record.name = some (Catalog.normalizer record.check record.toDocument) := by
  cases record <;> rfl

/-- The rules that the parts of a record keep. -/
def IsSound : (record : BinaryRecord) → record.Content → Prop
  | .translation, content => Execution.kind content = .module
  | .compiledClasses, content => Compilation.isCompiled content = true
  | _, _ => True

/-- Whether the exceptions that a record tells of are not too many. -/
def IsShort : (record : BinaryRecord) → record.Content → Prop
  | .translation, content =>
      ∀ description ∈ Execution.exception content, description.length < nestingLimit
  | _, _ => True

/-- A record with its bytes changed. -/
def mapBytes (change : Bytes → Bytes) : (record : BinaryRecord) → record.Content → record.Content
  | .classFiles => ClassFiles.mapBytes change
  | .wasmModule => WasmModule.mapBytes change
  | .translation => Execution.mapBytes change
  | .compiledClasses => Compilation.map (ClassFiles.mapBytes change)

/-- The bytes that a record holds. -/
def binaries : (record : BinaryRecord) → record.Content → List Bytes
  | .classFiles, classes => classes.files.values
  | .wasmModule, module => [module.binary]
  | .translation, result => Execution.binaries result
  | .compiledClasses, .compiled classes _ => classes.files.values
  | .compiledClasses, .notCompiled _ => []

variable {record : BinaryRecord} {content : record.Content}

/-- Whatever was read keeps the rules. -/
theorem isSound_of_check {value : Value} (read : record.check value = .valid content) :
    record.IsSound content := by
  cases record with
  | translation => exact Execution.kind_of_check read
  | compiledClasses => exact Compilation.isCompiled_of_checkCompiled read
  | _ => trivial

/-- Whatever was read tells of few exceptions. -/
theorem isShort_of_check {value : Value} (read : record.check value = .valid content) :
    record.IsShort content := by
  cases record with
  | translation => exact (Execution.parts_of_check read).1
  | _ => trivial

/-- A record stays the same only if all its bytes do. -/
theorem mapBytes_eq_iff {change : Bytes → Bytes} :
    record.mapBytes change content = content ↔
      ∀ bytes ∈ record.binaries content, change bytes = bytes := by
  cases record with
  | classFiles => exact ClassFiles.mapBytes_eq_iff
  | wasmModule => exact WasmModule.mapBytes_eq_iff.trans (by simp [binaries])
  | translation => exact Execution.mapBytes_eq_iff
  | compiledClasses =>
      cases content with
      | compiled classes diagnostics =>
          simp [mapBytes, Compilation.map, ClassFiles.mapBytes_eq_iff, binaries]
      | notCompiled diagnostics => simp [mapBytes, Compilation.map, binaries]

theorem write_of_isShort (short : record.IsShort content) :
    record.write content = .ok (record.toDocument content) := by
  cases record with
  | translation => exact if_pos (Execution.nesting_le_iff.mpr short)
  | _ => rfl

/-- A record is read from its wire form with other bytes. -/
theorem check_toDocument (sound : record.IsSound content) (short : record.IsShort content) :
    record.check (record.toDocument content).toValue =
      .valid (record.mapBytes writtenBytes content) := by
  cases record with
  | classFiles => exact ClassFiles.check_toDocument content
  | wasmModule => exact WasmModule.check_toDocument content
  | translation => exact Execution.check_toDocument_module sound short
  | compiledClasses =>
      cases content with
      | compiled classes diagnostics =>
          exact Compilation.checkCompiled_toDocument diagnostics classes.check_toDocument
      | notCompiled diagnostics => cases sound

/-- Whatever was read is read with other bytes when it has been written. -/
theorem check_toDocument_of_check {value : Value} (read : record.check value = .valid content) :
    record.check (record.toDocument content).toValue =
      .valid (record.mapBytes writtenBytes content) :=
  check_toDocument (isSound_of_check read) (isShort_of_check read)

/-- A record is read back with the bytes of the texts that its bytes are written as, so it is
read back as it was only if it holds no bytes at all. -/
theorem read_back_iff (record : BinaryRecord) (content : record.Content)
    (sound : record.IsSound content) (short : record.IsShort content) :
    ∃ document, record.write content = .ok document ∧
      record.check document.toValue = .valid (record.mapBytes writtenBytes content) ∧
      (record.check document.toValue = .valid content ↔
        ∀ bytes ∈ record.binaries content, bytes = []) := by
  have read := check_toDocument sound short
  refine ⟨record.toDocument content, write_of_isShort short, read, ?_⟩
  rw [read, Checked.valid.injEq, mapBytes_eq_iff]
  simp only [writtenBytes_eq_iff]

/-- The four bytes that class files start with are read back as the eight of their text. -/
theorem read_back_magic :
    let classes : ClassFiles := ⟨Keyed.ofList [("A.class", [0xCA, 0xFE, 0xBA, 0xBE])], none⟩
    ∃ document, BinaryRecord.classFiles.write classes = .ok document ∧
      BinaryRecord.classFiles.check document.toValue =
        .valid ⟨Keyed.ofList [("A.class", Text.Utf8.encode "yv66vg==")], none⟩ ∧
      BinaryRecord.classFiles.check document.toValue ≠ .valid classes := by
  obtain ⟨document, written, read, same⟩ := read_back_iff .classFiles
    ⟨Keyed.ofList [("A.class", [0xCA, 0xFE, 0xBA, 0xBE])], none⟩ trivial trivial
  refine ⟨document, written, read, fun kept => ?_⟩
  exact absurd (same.mp kept) (by decide)

end BinaryRecord
end Multitarget
