import Multitarget.Domain.Completion
import Multitarget.Domain.Wire
import Multitarget.Proofs.Json.Spelling

/-!
# Wire forms are plain documents

The wire form of a record names each member once, that of a map has the names of its entries,
and all numbers are whole. So every wire form is a plain document, whatever its texts hold, and
reading undoes writing it.
-/

namespace Multitarget

namespace Json

variable {α : Type}

theorem isPlain_array_map {change : α → Document} (plain : ∀ value, IsPlain (change value))
    (values : List α) : IsPlain (.array (values.map change)) := by
  refine (arePlain_iff _).mpr fun item listed => ?_
  obtain ⟨value, _, rfl⟩ := List.mem_map.mp listed
  exact plain value

/-- The names of a map are the names of the members that its entries become. -/
theorem isPlain_object_map {change : α → Document} (plain : ∀ value, IsPlain (change value))
    (map : Keyed α) :
    IsPlain (.object (map.entries.map fun (name, value) => (name, change value))) := by
  constructor
  · have names : (map.entries.map fun (name, value) => (name, change value)).map Prod.fst =
        map.entries.map Prod.fst := by
      rw [List.map_map]
      rfl
    rw [names]
    exact map.nodup
  · refine (arePlainMembers_iff _).mpr fun member listed => ?_
    obtain ⟨entry, _, rfl⟩ := List.mem_map.mp listed
    exact plain entry.2

end Json

open Json (IsPlain isPlain_array_map isPlain_object_map isPlain_ofText?)

theorem Position.isPlain (position : Position) : IsPlain position.toDocument :=
  ⟨by simp, trivial, trivial, trivial⟩

theorem Interval.isPlain (interval : Interval) : IsPlain interval.toDocument :=
  ⟨by simp, interval.start.isPlain, interval.stop.isPlain, trivial⟩

theorem Diagnostic.isPlain (diagnostic : Diagnostic) : IsPlain diagnostic.toDocument := by
  refine ⟨by simp, ?_, trivial, trivial, isPlain_ofText? _, trivial⟩
  cases diagnostic.interval with
  | none => trivial
  | some interval => exact interval.isPlain

theorem Diagnostics.isPlain (diagnostics : Diagnostics) : IsPlain diagnostics.toDocument :=
  ⟨by simp, isPlain_object_map (isPlain_array_map Diagnostic.isPlain) _, trivial⟩

theorem ExceptionDescription.isPlain :
    (description : ExceptionDescription) → IsPlain description.toDocument
  | .mk message _ stackTrace cause => by
    have isPlain_text (frame : String) : IsPlain (.text frame) := trivial
    have frames := isPlain_array_map isPlain_text stackTrace
    cases cause with
    | none => exact ⟨by simp, isPlain_ofText? message, trivial, frames, trivial, trivial⟩
    | some cause =>
        exact ⟨by simp, isPlain_ofText? message, trivial, frames, cause.isPlain, trivial⟩

theorem isPlain_bytesDocument (bytes : Text.Bytes) : IsPlain (bytesDocument bytes) :=
  trivial

theorem ClassFiles.isPlain (classes : ClassFiles) : IsPlain classes.toDocument :=
  ⟨by simp, isPlain_object_map isPlain_bytesDocument _, isPlain_ofText? _, trivial⟩

theorem WasmModule.isPlain (module : WasmModule) : IsPlain module.toDocument :=
  ⟨by simp, trivial, trivial, trivial, isPlain_ofText? _, trivial⟩

theorem TestOutcome.isPlain (outcome : TestOutcome) : IsPlain outcome.toDocument := by
  refine ⟨by simp, trivial, trivial, trivial, trivial, ?_, trivial, trivial⟩
  cases outcome.exception with
  | none => trivial
  | some exception => exact exception.isPlain

theorem Execution.arePlain_payloadMembers (payload : Payload) :
    Json.ArePlainMembers (payloadMembers payload) := by
  cases payload with
  | none => trivial
  | tests results =>
      exact ⟨isPlain_object_map (isPlain_array_map TestOutcome.isPlain) results, trivial⟩
  | script code => exact ⟨isPlain_ofText? code, trivial⟩
  | module script instantiation binary textForm =>
      refine ⟨isPlain_ofText? script, isPlain_ofText? instantiation, ?_, isPlain_ofText? textForm,
        trivial⟩
      cases binary with
      | none => trivial
      | some bytes => exact isPlain_bytesDocument bytes

/-- No payload has a member of the name of one that every execution has. -/
theorem Execution.isPlain (execution : Execution) : IsPlain execution.toDocument := by
  constructor
  · cases payload : execution.payload <;> simp [payloadMembers]
  · refine ⟨execution.diagnostics.isPlain, trivial, ?_, isPlain_ofText? _,
      arePlain_payloadMembers _⟩
    cases execution.exception with
    | none => trivial
    | some exception => exact exception.isPlain

theorem Artifact.isPlain (artifact : Artifact) : IsPlain artifact.toDocument := by
  cases artifact with
  | classes files => exact files.isPlain
  | script code => trivial
  | module parts => exact parts.isPlain

theorem Compilation.isPlain (compilation : Compilation Artifact) :
    IsPlain (compilation.toDocument Artifact.toDocument) := by
  cases compilation with
  | compiled artifact diagnostics =>
      exact ⟨by simp, diagnostics.isPlain, artifact.isPlain, trivial⟩
  | notCompiled diagnostics =>
      exact ⟨by simp, diagnostics.isPlain, trivial⟩

theorem Completion.isPlain (completion : Completion) : IsPlain completion.toDocument :=
  ⟨by simp, trivial, trivial, trivial, isPlain_ofText? _, trivial, trivial, trivial⟩

namespace Wire

end Wire

end Multitarget
