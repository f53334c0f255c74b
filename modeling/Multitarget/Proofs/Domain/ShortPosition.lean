import Multitarget.Domain.Completion
import Multitarget.Domain.Diagnostics
import Multitarget.Json.Printer
import Multitarget.Proofs.Text.Numeral

/-!
# Documents with short numerals

A document can be written if none of its whole numbers has a numeral that is too long. The only
numbers of diagnostics are those of their positions, and proposals have none at all.
-/

namespace Multitarget

/-- A greater number has no shorter numeral. -/
theorem Text.length_decimal_mono {less more : Nat} (le : less ≤ more) :
    (decimal less).length ≤ (decimal more).length := by
  induction more using decimal_induction generalizing less with
  | digit more small =>
      rw [decimal_of_lt small, decimal_of_lt (Nat.lt_of_le_of_lt le small)]
      exact Nat.le_refl 1
  | further more large ih =>
      rw [decimal_of_le large, List.length_append]
      by_cases small : less < 10
      · rw [decimal_of_lt small]
        exact Nat.le_add_left 1 _
      · rw [decimal_of_le (Nat.not_lt.mp small), List.length_append]
        exact Nat.add_le_add_right (ih (Nat.div_le_div_right le)) 1

namespace Json

@[simp] theorem isWritable_text (text : String) : isWritable (.text text) = true := rfl

@[simp] theorem isWritable_null : isWritable .null = true := rfl

@[simp] theorem isWritable_bool (value : Bool) : isWritable (.bool value) = true := rfl

theorem isWritable_int (value : Int) : isWritable (.int value) =
    decide ((Text.decimal value.natAbs).length ≤ Text.numeralLimit) := rfl

/-- An array can be written if all its items can. -/
theorem isWritable_array_iff (items : List Document) :
    isWritable (.array items) = true ↔ ∀ item ∈ items, isWritable item = true := by
  induction items with
  | nil => exact ⟨nofun, fun _ => rfl⟩
  | cons item rest ih =>
      change (isWritable item && isWritable (.array rest)) = true ↔ _
      rw [Bool.and_eq_true, ih, List.forall_mem_cons]

/-- An object can be written if all its members can. -/
theorem isWritable_object_iff (members : List (String × Document)) :
    isWritable (.object members) = true ↔ ∀ member ∈ members, isWritable member.2 = true := by
  induction members with
  | nil => exact ⟨nofun, fun _ => rfl⟩
  | cons member rest ih =>
      change (isWritable member.2 && isWritable (.object rest)) = true ↔ _
      rw [Bool.and_eq_true, ih, List.forall_mem_cons]

@[simp] theorem isWritable_ofText? (text : Option String) :
    isWritable (.ofText? text) = true := by
  cases text <;> rfl

end Json

open Json (isWritable isWritable_object_iff isWritable_array_iff)

/-! ## Positions -/

theorem Position.isWritable_iff (position : Position) : isWritable position.toDocument = true ↔
    (Text.decimal position.line).length ≤ Text.numeralLimit ∧
      (Text.decimal position.column).length ≤ Text.numeralLimit := by
  rw [toDocument, isWritable_object_iff]
  simp [Json.isWritable_int]

theorem Interval.isWritable_iff (interval : Interval) : isWritable interval.toDocument = true ↔
    isWritable interval.start.toDocument = true ∧ isWritable interval.stop.toDocument = true := by
  rw [toDocument, isWritable_object_iff]
  simp

/-- A diagnostic can be written if its interval can. -/
theorem Diagnostic.isWritable_iff (diagnostic : Diagnostic) :
    isWritable diagnostic.toDocument = true ↔
      ∀ interval, diagnostic.interval = some interval → isWritable interval.toDocument = true := by
  rw [toDocument, isWritable_object_iff]
  cases diagnostic.interval <;> simp

/-- Diagnostics can be written if each of them can. -/
theorem Diagnostics.isWritable_iff (diagnostics : Diagnostics) :
    isWritable diagnostics.toDocument = true ↔
      ∀ diagnostic ∈ diagnostics.all, isWritable diagnostic.toDocument = true := by
  have ofList (list : List Diagnostic) :
      isWritable (.array (list.map Diagnostic.toDocument)) = true ↔
        ∀ diagnostic ∈ list, isWritable diagnostic.toDocument = true := by
    rw [isWritable_array_iff, List.forall_mem_map]
  rw [toDocument, isWritable_object_iff, List.forall_mem_singleton, isWritable_object_iff,
    List.forall_mem_map]
  constructor
  · intro writable diagnostic held
    obtain ⟨list, listed, among⟩ := List.mem_flatten.mp held
    obtain ⟨entry, present, rfl⟩ := List.mem_map.mp listed
    exact (ofList entry.2).mp (writable entry present) diagnostic among
  · intro writable entry present
    apply (ofList entry.2).mpr
    intro diagnostic among
    exact writable diagnostic
      (List.mem_flatten.mpr ⟨entry.2, List.mem_map_of_mem present, among⟩)

/-- Whether a position, counted from one as a report has it, has numerals that can be written. -/
def Position.IsShort (position : Position) : Prop :=
  (Text.decimal (position.line + 1)).length ≤ Text.numeralLimit ∧
    (Text.decimal (position.column + 1)).length ≤ Text.numeralLimit

/-- Whether all positions of a diagnostic have short numerals. -/
def Diagnostic.IsShort (diagnostic : Diagnostic) : Prop :=
  ∀ interval, diagnostic.interval = some interval →
    interval.start.IsShort ∧ interval.stop.IsShort

/-- Whether all positions of diagnostics have short numerals. -/
def Diagnostics.AreShort (diagnostics : Diagnostics) : Prop :=
  ∀ diagnostic ∈ diagnostics.all, diagnostic.IsShort

theorem Position.IsShort.isWritable {position : Position} (short : position.IsShort) :
    isWritable position.toDocument = true := by
  rw [Position.isWritable_iff]
  constructor
  · exact Nat.le_trans (Text.length_decimal_mono (Nat.le_succ position.line)) short.1
  · exact Nat.le_trans (Text.length_decimal_mono (Nat.le_succ position.column)) short.2

/-- Diagnostics whose positions have short numerals can be written. -/
theorem Diagnostics.AreShort.isWritable {diagnostics : Diagnostics}
    (short : diagnostics.AreShort) : isWritable diagnostics.toDocument = true := by
  rw [Diagnostics.isWritable_iff]
  intro diagnostic held
  rw [Diagnostic.isWritable_iff]
  intro interval placed
  obtain ⟨start, stop⟩ := short diagnostic held interval placed
  exact interval.isWritable_iff.mpr ⟨start.isWritable, stop.isWritable⟩

/-- Where diagnostics can be written, no line that one of them starts at has too long a numeral. -/
theorem Diagnostics.line_le_of_isWritable {diagnostics : Diagnostics} {diagnostic : Diagnostic}
    {interval : Interval} (writable : isWritable diagnostics.toDocument = true)
    (held : diagnostic ∈ diagnostics.all) (placed : diagnostic.interval = some interval) :
    (Text.decimal interval.start.line).length ≤ Text.numeralLimit := by
  rw [Diagnostics.isWritable_iff] at writable
  have ofInterval := (Diagnostic.isWritable_iff _).mp (writable diagnostic held) interval placed
  exact ((Position.isWritable_iff _).mp (interval.isWritable_iff.mp ofInterval).1).1

/-! ## Proposals -/

/-- Proposals can always be written. -/
theorem Completion.areWritable (items : List Completion) :
    isWritable (.array (items.map toDocument)) = true := by
  rw [isWritable_array_iff]
  intro document listed
  obtain ⟨item, _, rfl⟩ := List.mem_map.mp listed
  rw [toDocument, isWritable_object_iff]
  simp

end Multitarget
