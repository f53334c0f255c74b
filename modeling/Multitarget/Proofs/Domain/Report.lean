import Multitarget.Domain.Report
import Multitarget.Text.Utf8

/-!
# Reports of diagnostics

A report has a line for every diagnostic, and no line is empty. So a report is empty,
as text and as bytes, only if there is nothing to report.
-/

namespace Multitarget

namespace Text.Utf8

theorem encodeChar_ne_nil (character : Char) : encodeChar character ≠ [] := by
  simp only [encodeChar]
  split
  · simp
  · split
    · simp
    · split <;> simp

theorem encode_eq_nil_iff {text : String} : encode text = [] ↔ text = "" := by
  rw [encode, encodeChars, List.flatMap_eq_nil_iff]
  constructor
  · intro none
    cases characters : text.toList with
    | nil => exact String.toList_eq_nil_iff.mp characters
    | cons first rest =>
        have silent : encodeChar first = [] := none first (by simp [characters])
        exact absurd silent (encodeChar_ne_nil first)
  · rintro rfl
    simp

end Text.Utf8

namespace Report

theorem line_ne_empty (file : String) (diagnostic : Diagnostic) : line file diagnostic ≠ "" := by
  intro empty
  have characters : lineChars file diagnostic = [] := by
    simpa [line] using congrArg String.toList empty
  simp [lineChars] at characters

/-- The diagnostics of a report are all diagnostics. -/
theorem located_map_snd (diagnostics : Diagnostics) :
    (located diagnostics).map Prod.snd = diagnostics.all := by
  simp [located, Diagnostics.all, Keyed.values, List.flatMap_def, Function.comp_def]

theorem lines_eq_nil_iff (diagnostics : Diagnostics) :
    lines diagnostics = [] ↔ diagnostics.all = [] := by
  rw [← located_map_snd]
  simp [lines]

theorem render_eq_empty_iff (diagnostics : Diagnostics) :
    render diagnostics = "" ↔ diagnostics.all = [] := by
  rw [← lines_eq_nil_iff, render]
  constructor
  · intro empty
    cases all : lines diagnostics with
    | nil => rfl
    | cons first rest =>
        have listed : first ∈ lines diagnostics := by simp [all]
        obtain ⟨⟨file, diagnostic⟩, _, rfl⟩ := List.mem_map.mp listed
        rw [all] at empty
        by_cases last : rest = []
        · subst last
          rw [String.intercalate_singleton] at empty
          exact absurd empty (line_ne_empty file diagnostic)
        · rw [String.intercalate_cons_of_ne_nil last] at empty
          simp at empty
  · intro none
    rw [none, String.intercalate_nil]

end Report

end Multitarget
