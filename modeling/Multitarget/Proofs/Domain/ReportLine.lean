import Multitarget.Proofs.Domain.Report
import Multitarget.Proofs.Text.Lines
import Multitarget.Proofs.Text.Numeral

/-!
# Lines of reports

Colons end the fields of a line, and only its first field, the file name, and its last, the
message, can hold colons of their own. So among the lines of one file a line is read in one way
only: behind the name a blank or a digit tells whether there is a position, and each of the
other fields ends at the next colon.
-/

namespace Multitarget

theorem Severity.name_inj {left right : Severity} (same : left.name = right.name) :
    left = right := by
  cases left <;> cases right <;> first | rfl | exact absurd same (by decide)

namespace Report

theorem colon_not_mem_name (severity : Severity) : ':' ∉ severity.name.toList := by
  cases severity <;> decide

/-- A numeral ends at the next colon. -/
theorem decimal_colon_inj {left right : Nat} {rest others : List Char}
    (same : Text.decimal left ++ ':' :: rest = Text.decimal right ++ ':' :: others) :
    left = right ∧ rest = others := by
  have noColon (number : Nat) : ':' ∉ Text.decimal number := Text.not_mem_decimal (by decide)
  obtain ⟨numerals, behind⟩ := Text.eq_of_append_separator (noColon left) (noColon right) same
  exact ⟨Text.decimal_inj numerals, behind⟩

/-! ## What is read off a line -/

/-- What a line says behind the place of its diagnostic. -/
def remark (diagnostic : Diagnostic) : List Char :=
  diagnostic.severity.name.toList ++ ':' :: ' ' :: diagnostic.message.toList

theorem lineChars_eq (file : String) (diagnostic : Diagnostic) :
    lineChars file diagnostic =
      file.toList ++ (place diagnostic.interval ++ ':' :: ' ' :: remark diagnostic) := by
  simp only [lineChars, remark, List.append_assoc]

theorem remark_eq_iff {left right : Diagnostic} :
    remark left = remark right ↔
      left.severity = right.severity ∧ left.message = right.message := by
  constructor
  · intro same
    obtain ⟨names, behind⟩ := Text.eq_of_append_separator (colon_not_mem_name left.severity)
      (colon_not_mem_name right.severity) same
    exact ⟨Severity.name_inj (String.toList_inj.mp names),
      String.toList_inj.mp (List.cons.inj behind).2⟩
  · rintro ⟨severities, messages⟩
    rw [remark, remark, severities, messages]

theorem place_some (interval : Interval) (rest : List Char) :
    place (some interval) ++ rest =
      ':' :: (Text.decimal (interval.start.line + 1) ++
        ':' :: (Text.decimal (interval.start.column + 1) ++ rest)) := by
  simp only [place, List.cons_append, List.append_assoc]

/-- Behind the file name a digit stands where there is a position, and a blank where there is
none. -/
theorem place_some_ne (interval : Interval) (rest others : List Char) :
    place (some interval) ++ rest ≠ place none ++ ':' :: ' ' :: others := by
  intro same
  obtain ⟨first, digits, numeral, digit⟩ := Text.exists_decimal_cons (interval.start.line + 1)
  rw [place_some, numeral] at same
  obtain ⟨blank, _⟩ := List.cons.inj (List.cons.inj same).2
  exact absurd digit (blank ▸ by decide)

theorem place_eq_iff {left right : Option Interval} {rest others : List Char} :
    place left ++ ':' :: ' ' :: rest = place right ++ ':' :: ' ' :: others ↔
      left.map Interval.start = right.map Interval.start ∧ rest = others := by
  cases left with
  | none =>
      cases right with
      | none => simp [place]
      | some interval => simpa using (place_some_ne interval _ rest).symm
  | some interval =>
      cases right with
      | none => simpa using place_some_ne interval _ others
      | some other =>
          rw [place_some, place_some]
          constructor
          · intro same
            obtain ⟨line, behind⟩ := decimal_colon_inj (List.cons.inj same).2
            obtain ⟨column, ends⟩ := decimal_colon_inj behind
            have start : interval.start = other.start :=
              (Position.mk.injEq ..).mpr ⟨Nat.succ.inj line, Nat.succ.inj column⟩
            exact ⟨congrArg some start, (List.cons.inj ends).2⟩
          · rintro ⟨starts, rfl⟩
            rw [Option.some.inj starts]

/-- Of one file two diagnostics have the same line exactly if they have the same severity and
message and start at the same position, or both have none. -/
theorem line_eq_iff (file : String) (left right : Diagnostic) :
    line file left = line file right ↔
      left.severity = right.severity ∧ left.message = right.message ∧
        left.interval.map Interval.start = right.interval.map Interval.start := by
  rw [line, line, String.ofList_inj, lineChars_eq, lineChars_eq, List.append_cancel_left_eq,
    place_eq_iff, remark_eq_iff, and_comm, and_assoc]

/-! ## What a report is as lines of text -/

theorem count_eq_length_lines (diagnostics : Diagnostics) :
    diagnostics.count none = (lines diagnostics).length := by
  rw [Diagnostics.count, ← located_map_snd, List.length_map, lines, List.length_map]

theorem toList_render (diagnostics : Diagnostics) :
    (render diagnostics).toList = Text.join ['\n'] ((lines diagnostics).map String.toList) := by
  rw [render, String.toList_intercalate, Text.join_eq_intercalate]
  rfl

/-- The texts that a line of a report holds: the name of the file and the message. -/
def words (entry : String × Diagnostic) : List Char :=
  entry.1.toList ++ entry.2.message.toList

/-- A line of a report holds no line feeds but those of its texts. -/
theorem count_feed_line (entry : String × Diagnostic) :
    (line entry.1 entry.2).toList.count '\n' = (words entry).count '\n' := by
  obtain ⟨file, diagnostic⟩ := entry
  have decimal (number : Nat) : (Text.decimal number).count '\n' = 0 :=
    List.count_eq_zero.mpr (Text.not_mem_decimal (by decide))
  have place : (place diagnostic.interval).count '\n' = 0 := by
    cases diagnostic.interval <;> simp [Report.place, decimal]
  have name : diagnostic.severity.name.toList.count '\n' = 0 := by
    cases diagnostic.severity <;> decide
  simp [line, lineChars, words, place, name]

/-- A report as a text has the lines of each line that it was made of. -/
theorem lines_render {diagnostics : Diagnostics} (some : diagnostics.count none ≠ 0) :
    Text.lines (render diagnostics).toList =
      (lines diagnostics).flatMap fun line => Text.lines line.toList := by
  have held : (lines diagnostics).map String.toList ≠ [] := by
    rw [count_eq_length_lines] at some
    simpa using some
  rw [Text.lines, toList_render, Text.splitAt_join_eq_flatMap held, List.flatMap_map]
  rfl

/-- Every diagnostic takes a line, and another for each line feed in its texts. -/
theorem length_lines_render {diagnostics : Diagnostics} (some : diagnostics.count none ≠ 0) :
    (Text.lines (render diagnostics).toList).length =
      diagnostics.count none + ((located diagnostics).flatMap words).count '\n' := by
  rw [lines_render some, count_eq_length_lines, lines]
  induction located diagnostics with
  | nil => rfl
  | cons entry rest ih =>
      have taken : (Text.lines (line entry.1 entry.2).toList).length =
          (words entry).count '\n' + 1 := by
        rw [Text.lines, Text.length_splitAt, count_feed_line]
      simp only [List.map_cons, List.flatMap_cons, List.length_append, List.length_cons,
        List.count_append, taken, ih]
      omega

/-- A report is read back as its lines exactly if there is no line feed in its texts. -/
theorem lines_render_eq_iff {diagnostics : Diagnostics} (some : diagnostics.count none ≠ 0) :
    Text.lines (render diagnostics).toList = (lines diagnostics).map String.toList ↔
      ∀ entry ∈ located diagnostics, '\n' ∉ words entry := by
  have parts : ((lines diagnostics).flatMap fun line => Text.lines line.toList) =
      ((lines diagnostics).map String.toList).flatMap (Text.splitAt '\n') :=
    (List.flatMap_map ..).symm
  rw [lines_render some, parts, Text.flatMap_splitAt_eq_self_iff]
  simp only [lines, List.map_map, List.forall_mem_map, Function.comp_apply,
    ← List.count_eq_zero, count_feed_line]

end Report

end Multitarget
