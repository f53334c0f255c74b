import Multitarget.Proofs.Domain.ReportLine
import Multitarget.Proofs.Executor.Persistence
import Multitarget.Proofs.Text.Utf8

/-!
# The report as a file

The file of a report is the encoding of its lines with line feeds between them. It is empty
exactly if there is nothing to report. A message of several lines is written as it is, and so
takes as many lines of the file.
-/

namespace Multitarget

theorem Report.count_eq_zero_iff (diagnostics : Diagnostics) :
    diagnostics.count none = 0 ↔ render diagnostics = "" := by
  rw [render_eq_empty_iff, Diagnostics.count, List.length_eq_zero_iff]

namespace Artifacts

variable {diagnostics : Diagnostics} {output path : FilePath} {session after : Session}

theorem storeReport_path (ran : storeReport diagnostics output session = (.ok path, after)) :
    path = reportPath output := by
  obtain ⟨_, _, _, ran⟩ := bind_eq_ok ran
  obtain ⟨_, _, _, ran⟩ := bind_eq_ok ran
  obtain ⟨_, stored, _, ran⟩ := bind_eq_ok ran
  rw [bind_of_ok (Action.log_run _ _ _ stored), pure_run, ended_inj] at ran
  exact (Except.ok.inj ran.1).symm

/-- What is read from a saved report is its text. -/
theorem storeReport_read (wellFormed : session.files.WellFormed)
    (ran : storeReport diagnostics output session = (.ok path, after)) :
    Action.readFile path after = (.ok (Text.Utf8.encode (Report.render diagnostics)), after) ∧
      Text.Utf8.decode (Text.Utf8.encode (Report.render diagnostics)) =
        .ok (Report.render diagnostics).toList := by
  obtain ⟨writes, leads⟩ := storeReport_writes wellFormed ran
  rw [storeReport_path ran]
  exact ⟨(reported_of_writes writes leads).held, Text.Utf8.decode_eq_ok_iff.mpr rfl⟩

/-- The file of a report is UTF-8 text, empty exactly if there are no diagnostics. Otherwise its
lines are those of each line of the report, one for each diagnostic and one more for each line
feed in a message or a file name; so they are the lines of the report exactly if there is no
such line feed. -/
theorem storeReport_lines (wellFormed : session.files.WellFormed)
    (ran : storeReport diagnostics output session = (.ok path, after)) :
    path = reportPath output ∧ ∃ content text,
      Action.readFile path after = (.ok content, after) ∧
      Text.Utf8.decode content = .ok text ∧
      (content = [] ↔ diagnostics.count none = 0) ∧
      (diagnostics.count none ≠ 0 →
        Text.lines text =
          (Report.lines diagnostics).flatMap (fun line => Text.lines line.toList) ∧
        (Text.lines text).length =
          diagnostics.count none +
            ((Report.located diagnostics).flatMap Report.words).count '\n' ∧
        (Text.lines text = (Report.lines diagnostics).map String.toList ↔
          ∀ entry ∈ Report.located diagnostics, '\n' ∉ Report.words entry)) := by
  obtain ⟨read, decoded⟩ := storeReport_read wellFormed ran
  refine ⟨storeReport_path ran, _, _, read, decoded, ?_, fun some => ?_⟩
  · rw [Text.Utf8.encode_eq_nil_iff, Report.count_eq_zero_iff]
  · exact ⟨Report.lines_render some, Report.length_lines_render some,
      Report.lines_render_eq_iff some⟩

end Artifacts

/-- An error whose message has two lines, and a warning. -/
def Diagnostics.divided : Diagnostics :=
  ⟨⟨[("File.kt", [⟨none, "Type mismatch.\nRequired: Int", .error, none⟩,
      ⟨none, "unused", .warning, none⟩])], by decide⟩⟩

/-- The report of two diagnostics has three lines, and not the two that it was made of. -/
theorem Artifacts.storeReport_lines_divided :
    ∃ path final content text,
      storeReport .divided ⟨"", ["out"]⟩ Session.fresh = (.ok path, final) ∧
      Action.readFile path final = (.ok content, final) ∧
      Text.Utf8.decode content = .ok text ∧
      Diagnostics.divided.count none = 2 ∧ (Text.lines text).length = 3 ∧
      Text.lines text ≠ (Report.lines .divided).map String.toList := by
  have succeeds :
      (storeReport .divided ⟨"", ["out"]⟩ Session.fresh).1.toOption.isSome = true := by
    decide +kernel
  rcases ran : storeReport .divided ⟨"", ["out"]⟩ Session.fresh with ⟨fault | path, final⟩
  · simp [ran, Except.toOption] at succeeds
  · obtain ⟨_, content, text, read, decoded, _, told⟩ :=
      storeReport_lines Executor.wellFormed_fresh ran
    obtain ⟨_, length, whole⟩ := told (by decide)
    refine ⟨path, final, content, text, rfl, read, decoded, by decide, ?_, fun same => ?_⟩
    · exact length.trans (by decide)
    · have silent := whole.mp same ("File.kt", ⟨none, "Type mismatch.\nRequired: Int", .error,
        none⟩) (by decide)
      exact absurd silent (by decide)

end Multitarget
