import Mathlib.Data.Prod.Lex
import Mathlib.Data.Set.Card
import Mathlib.Order.Interval.Finset.Nat
import Mathlib.Order.Interval.Set.Monotone
import Multitarget.Proofs.Domain.CursorPosition

/-!
# Offsets of cursors

Every offset of a text has a cursor, and a cursor at a later offset stands at a later position:
in a later line, or further on in the same one. So each position of a file belongs to one offset
of its text, and there is one position more than there are characters.
-/

namespace Multitarget

namespace Text

variable {text : List Char}

/-! ## Moving on -/

/-- A character behind a cursor takes it one column further, and a line feed to the start of the
next line. -/
theorem cursorBehind_concat (text : List Char) (character : Char) :
    cursorBehind (text ++ [character]) =
      if character = '\n' then ((cursorBehind text).1 + 1, 0)
      else ((cursorBehind text).1, (cursorBehind text).2 + 1) := by
  rw [cursorBehind, List.rtakeWhile_concat, List.count_append, cursorBehind]
  by_cases feed : character = '\n' <;> simp [feed]

theorem cursorBehind_lt_concat (text : List Char) (character : Char) :
    toLex (cursorBehind text) < toLex (cursorBehind (text ++ [character])) := by
  rw [cursorBehind_concat, Prod.Lex.toLex_lt_toLex]
  split <;> simp

/-- Cursors at later offsets stand in later lines, or in later columns of the same line. -/
theorem strictMonoOn_cursorBehind (text : List Char) :
    StrictMonoOn (fun offset => toLex (cursorBehind (text.take offset)))
      (Set.Iic text.length) := by
  refine strictMonoOn_Iic_of_lt_succ fun offset inside => ?_
  rw [Order.succ_eq_add_one]
  simp only [List.take_add_one, List.getElem?_eq_getElem inside, Option.toList_some]
  exact cursorBehind_lt_concat _ _

/-! ## Positions of offsets -/

/-- The offset at which the last line of a text starts. -/
def lastLineStart (text : List Char) : Nat :=
  (text.rdropWhile (· != '\n')).length

/-- Whether the cursor at an offset of a text stands at a position: its line is the number of line
feeds before the offset, and its column the distance of the offset from the start of that line. -/
structure CursorAt (text : List Char) (offset : Nat) (line column : Int) : Prop where
  inside : offset ≤ text.length
  line_eq : line = (text.take offset).count '\n'
  column_eq : column = offset - lastLineStart (text.take offset)

/-- The position of the cursor at an offset of a text. -/
def positionAt (text : List Char) (offset : Nat) : Int × Int :=
  ((cursorBehind (text.take offset)).1, (cursorBehind (text.take offset)).2)

theorem lastLineStart_add_column (text : List Char) :
    lastLineStart text + (cursorBehind text).2 = text.length := by
  rw [lastLineStart, cursorBehind, ← List.length_append, List.rdropWhile_append_rtakeWhile]

theorem cursorAt_iff {offset : Nat} {line column : Int} :
    CursorAt text offset line column ↔
      offset ≤ text.length ∧ positionAt text offset = (line, column) := by
  have distance (inside : offset ≤ text.length) :
      (offset : Int) - lastLineStart (text.take offset) =
        (cursorBehind (text.take offset)).2 := by
    have parts := lastLineStart_add_column (text.take offset)
    rw [List.length_take_of_le inside] at parts
    omega
  constructor
  · rintro ⟨inside, rfl, rfl⟩
    rw [distance inside]
    exact ⟨inside, rfl⟩
  · rintro ⟨inside, same⟩
    obtain ⟨rfl, rfl⟩ := Prod.mk.inj same
    exact ⟨inside, rfl, (distance inside).symm⟩

theorem injOn_positionAt (text : List Char) :
    Set.InjOn (positionAt text) (Set.Iic text.length) := by
  intro first firstInside second secondInside same
  apply (strictMonoOn_cursorBehind text).injOn firstInside secondInside
  simpa [positionAt, Prod.ext_iff] using same

theorem subsingleton_cursorAt (text : List Char) (line column : Int) :
    {offset | CursorAt text offset line column}.Subsingleton := by
  intro first firstStands second secondStands
  obtain ⟨firstInside, firstSame⟩ := cursorAt_iff.mp firstStands
  obtain ⟨secondInside, secondSame⟩ := cursorAt_iff.mp secondStands
  exact injOn_positionAt text firstInside secondInside (firstSame.trans secondSame.symm)

end Text

namespace SourceHandle

variable (handle : SourceHandle)

theorem containsPosition_iff_cursorAt (line column : Int) :
    handle.containsPosition line column = true ↔
      ∃ offset, Text.CursorAt handle.text.toList offset line column := by
  rw [containsPosition_iff]
  constructor
  · rintro ⟨before, starts, rfl, rfl⟩
    refine ⟨before.length, Text.cursorAt_iff.mpr ⟨starts.length_le, ?_⟩⟩
    rw [Text.positionAt, ← List.prefix_iff_eq_take.mp starts]
  · rintro ⟨offset, stands⟩
    obtain ⟨_, same⟩ := Text.cursorAt_iff.mp stands
    obtain ⟨rfl, rfl⟩ := Prod.mk.inj same
    exact ⟨_, List.take_prefix _ _, rfl, rfl⟩

theorem positions_eq_image :
    {position : Int × Int | handle.containsPosition position.1 position.2 = true} =
      Text.positionAt handle.text.toList '' Set.Iic handle.text.toList.length := by
  ext position
  exact (handle.containsPosition_iff_cursorAt _ _).trans
    (exists_congr fun _ => Text.cursorAt_iff)

/-- A file contains exactly the positions of the cursors at the offsets of its text, no two
offsets have the same position, and so there is one position more than there are characters. -/
theorem containsPosition_offsets :
    (∀ line column : Int,
      (handle.containsPosition line column = true ↔
        ∃ offset, Text.CursorAt handle.text.toList offset line column) ∧
      {offset | Text.CursorAt handle.text.toList offset line column}.Subsingleton) ∧
    {position : Int × Int | handle.containsPosition position.1 position.2 = true}.ncard =
      handle.text.length + 1 := by
  refine ⟨fun line column => ⟨handle.containsPosition_iff_cursorAt line column,
    Text.subsingleton_cursorAt _ line column⟩, ?_⟩
  rw [positions_eq_image, (Text.injOn_positionAt _).ncard_image, ← Finset.coe_Iic,
    Set.ncard_coe_finset, Nat.card_Iic, String.length_toList]

end SourceHandle

end Multitarget
