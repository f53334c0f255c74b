import Mathlib.Data.List.DropRight
import Multitarget.Domain.Source
import Multitarget.Proofs.Text.Lines

/-!
# Places for a cursor

A cursor stands behind some first part of a text. The line it stands in is the number of line
feeds of that part, and its column is the length of what follows the last of them. The positions
that lie in a file are exactly those of its cursors.
-/

namespace Multitarget

namespace Text

variable {text : List Char} {character : Char}

/-- The line and the column of a cursor that stands behind a text. -/
def cursorBehind (text : List Char) : Nat × Nat :=
  (text.count '\n', (text.rtakeWhile (· != '\n')).length)

@[simp] theorem cursorBehind_nil : cursorBehind [] = (0, 0) := rfl

/-- A character in front belongs to what follows the last line feed exactly if there is no line
feed. -/
theorem rtakeWhile_cons (character : Char) (text : List Char) :
    (character :: text).rtakeWhile (· != '\n') =
      if '\n' ∈ character :: text then text.rtakeWhile (· != '\n') else character :: text := by
  induction text using List.reverseRecOn with
  | nil =>
      by_cases feed : character = '\n'
      · simp [List.rtakeWhile, feed]
      · simp [List.rtakeWhile, feed, Ne.symm feed]
  | append_singleton text last ih =>
      rw [← List.cons_append, List.rtakeWhile_concat, List.rtakeWhile_concat, ih]
      by_cases feed : last = '\n'
      · simp [feed]
      · have passes : (last != '\n') = true := bne_iff_ne.mpr feed
        simp only [passes, if_true, List.mem_append, List.mem_singleton, Ne.symm feed, or_false]
        split <;> rfl

/-- A line feed in front puts a cursor one line further. -/
theorem cursorBehind_feed (text : List Char) :
    cursorBehind ('\n' :: text) = ((cursorBehind text).1 + 1, (cursorBehind text).2) := by
  rw [cursorBehind, rtakeWhile_cons, if_pos List.mem_cons_self, List.count_cons_self]
  rfl

/-- Any other character in front puts a cursor in the first line one column further. -/
theorem cursorBehind_cons_first (other : character ≠ '\n') {text : List Char} {column : Nat} :
    cursorBehind (character :: text) = (0, column) ↔
      ∃ left, column = left + 1 ∧ cursorBehind text = (0, left) := by
  rw [cursorBehind, cursorBehind, rtakeWhile_cons, List.count_cons_of_ne other]
  simp only [Prod.mk.injEq, List.count_eq_zero]
  by_cases held : '\n' ∈ text
  · simp [held]
  · have all : text.rtakeWhile (· != '\n') = text := by
      rw [List.rtakeWhile_eq_self_iff]
      intro character listed
      rw [bne_iff_ne]
      rintro rfl
      exact held listed
    simp [held, Ne.symm other, all, eq_comm]

/-- A cursor in a later line stays where it is. -/
theorem cursorBehind_cons_later (other : character ≠ '\n') {text : List Char}
    {line column : Nat} :
    cursorBehind (character :: text) = (line + 1, column) ↔
      cursorBehind text = (line + 1, column) := by
  rw [cursorBehind, cursorBehind, rtakeWhile_cons, List.count_cons_of_ne other]
  simp only [Prod.mk.injEq]
  by_cases held : '\n' ∈ text
  · simp [held]
  · simp [List.count_eq_zero.mpr held]

/-- A first part of a text is empty or starts like the text. -/
theorem exists_prefix_cons_iff {property : List Char → Prop} :
    (∃ before, before <+: character :: text ∧ property before) ↔
      property [] ∨ ∃ before, before <+: text ∧ property (character :: before) := by
  constructor
  · rintro ⟨before, starts, holds⟩
    rcases List.prefix_cons_iff.mp starts with rfl | ⟨rest, rfl, further⟩
    · exact .inl holds
    · exact .inr ⟨rest, further, holds⟩
  · rintro (holds | ⟨before, starts, holds⟩)
    · exact ⟨[], List.nil_prefix, holds⟩
    · exact ⟨character :: before, (List.prefix_cons_inj character).mpr starts, holds⟩

/-- The places in the lines of a text are those of the cursors behind its first parts. -/
theorem exists_line_iff (text : List Char) (line column : Nat) :
    (∃ content, (lines text)[line]? = some content ∧ column ≤ content.length) ↔
      ∃ before, before <+: text ∧ cursorBehind before = (line, column) := by
  induction text generalizing line column with
  | nil => cases line <;> simp [lines, splitAt, List.prefix_nil, eq_comm]
  | cons character text ih =>
      simp only [exists_prefix_cons_iff, cursorBehind_nil]
      by_cases feed : character = '\n'
      · subst feed
        simp only [lines, splitAt_separator, cursorBehind_feed]
        cases line with
        | zero => simp [eq_comm]
        | succ line => simpa [lines, Prod.ext_iff] using ih line column
      · obtain ⟨first, others, split⟩ := List.exists_cons_of_ne_nil (splitAt_ne_nil '\n' text)
        simp only [lines, split] at ih
        simp only [lines, splitAt_cons feed split]
        cases line with
        | zero =>
            simp only [cursorBehind_cons_first feed]
            cases column with
            | zero => simp
            | succ column => simpa using ih 0 column
        | succ line =>
            simp only [cursorBehind_cons_later feed]
            simpa using ih (line + 1) column

end Text

namespace SourceHandle

/-- Whether a cursor behind some first part of a file's text stands at a position. -/
def HasPlace (handle : SourceHandle) (line column : Int) : Prop :=
  ∃ before, before <+: handle.text.toList ∧ line = (Text.cursorBehind before).1 ∧
    column = (Text.cursorBehind before).2

/-- The positions that a file contains are those of its cursors. -/
theorem containsPosition_iff (handle : SourceHandle) (line column : Int) :
    handle.containsPosition line column = true ↔ handle.HasPlace line column := by
  unfold containsPosition
  by_cases negative : line < 0 ∨ column < 0
  · rw [if_pos negative]
    simp only [Bool.false_eq_true, false_iff]
    rintro ⟨before, _, rfl, rfl⟩
    omega
  · rw [if_neg negative]
    obtain ⟨row, rfl⟩ := Int.eq_ofNat_of_zero_le (by omega : 0 ≤ line)
    obtain ⟨place, rfl⟩ := Int.eq_ofNat_of_zero_le (by omega : 0 ≤ column)
    have places := Text.exists_line_iff handle.text.toList row place
    simp only [Prod.ext_iff, eq_comm (b := row), eq_comm (b := place)] at places
    simp only [HasPlace, Int.toNat_natCast, Int.natCast_inj, ← places, lines, List.getElem?_map]
    cases (Text.lines handle.text.toList)[row]? <;> simp

end SourceHandle

end Multitarget
