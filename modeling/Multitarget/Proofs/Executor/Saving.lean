import Multitarget.Executor.Basic
import Multitarget.Proofs.Executor.Artifacts

/-!
# Saving what came of a compilation

Class files and the report of why there are none are saved by the same steps, as artifacts
below the output directory. Saving stops at the first artifact that cannot be written. Those
before it stay, so however saving ends, it has written the first of them, up to some point.
-/

namespace Multitarget

namespace Action

variable {session after : Session} {path : FilePath} {content : Text.Bytes} {fault : Fault}

/-- However it ends, making sure of a directory writes no file. -/
theorem prepareDirectory_spares (wellFormed : session.files.WellFormed) (path : FilePath) :
    session.Writes [] (prepareDirectory path session).2 := by
  rw [prepareDirectory_run]
  obtain ⟨stays, gains⟩ := FileTree.ensureDirectories_gains wellFormed session.working path
  exact ⟨rfl, stays, gains.grows, fun location => by simpa using gains.contentAt_eq location⟩

/-- A file that cannot be written changes nothing. -/
theorem of_storeFile_fault (ran : storeFile path content session = (.error fault, after)) :
    after = session.note [.stored path] := by
  rw [storeFile_run, ended_inj] at ran
  obtain ⟨failed, rfl⟩ := ran
  rcases FileTree.writeFile_run session.working path content session.files with
    ⟨reason, unwritten⟩ | ⟨_, place, _, written⟩
  · rw [unwritten]
    rfl
  · simp [written] at failed

end Action

namespace Artifacts

variable {output : FilePath} {session after : Session} {fault : Fault}

/-- Writes one artifact; gives its path. -/
def storeOne (output : FilePath) (entry : String × Text.Bytes) : Action FilePath :=
  match resolve output entry.1 with
  | none => Action.fail (.persistence entry.1 "path must be relative to the output directory")
  | some path => do
    Action.prepareDirectory path.parent
    Action.storeFile path entry.2
    return path

/-- Artifacts are written one at a time. -/
theorem storeAll_cons (output : FilePath) (entry : String × Text.Bytes)
    (rest : List (String × Text.Bytes)) :
    storeAll output (entry :: rest) = (do
      let path ← storeOne output entry
      let others ← storeAll output rest
      return path :: others) := by
  simp only [storeAll, storeOne]
  cases resolve output entry.1 with
  | none => rfl
  | some path => simp only [bind_assoc, pure_bind]

/-- Artifacts that cannot all be written are written up to the first one that cannot. -/
theorem storeAll_fault {entries : List (String × Text.Bytes)}
    (ran : storeAll output entries session = (.error fault, after)) :
    ∃ done entry rest written between, entries = done ++ entry :: rest ∧
      storeAll output done session = (.ok written, between) ∧
      storeOne output entry between = (.error fault, after) := by
  induction entries generalizing session with
  | nil => simp [storeAll] at ran
  | cons first rest ih =>
      rw [storeAll_cons] at ran
      rcases bind_eq_error ran with one | ⟨path, between, one, later⟩
      · exact ⟨[], first, rest, [], session, rfl, rfl, one⟩
      · rcases bind_eq_error later with others | ⟨_, _, _, returned⟩
        · obtain ⟨done, entry, left, written, further, rfl, wrote, failed⟩ := ih others
          refine ⟨first :: done, entry, left, path :: written, further, rfl, ?_, failed⟩
          rw [storeAll_cons, bind_of_ok one, bind_of_ok wrote]
          rfl
        · simp at returned

/-- An artifact that cannot be written has at most made directories. -/
theorem storeOne_fault_writes {entry : String × Text.Bytes}
    (wellFormed : session.files.WellFormed)
    (ran : storeOne output entry session = (.error fault, after)) : session.Writes [] after := by
  unfold storeOne at ran
  cases resolved : resolve output entry.1 with
  | none =>
      simp only [resolved, Action.fail, throw_run, ended_inj] at ran
      obtain ⟨_, rfl⟩ := ran
      exact .of_passes wellFormed (.refl session)
  | some path =>
      simp only [resolved] at ran
      have preparing := Action.prepareDirectory_spares wellFormed path.parent
      rcases bind_eq_error ran with made | ⟨_, prepared, made, putting⟩
      · rwa [made] at preparing
      · rw [made] at preparing
        rcases bind_eq_error putting with put | ⟨_, _, _, returned⟩
        · rw [Action.of_storeFile_fault put]
          exact preparing.note _
        · simp at returned

/-- Artifacts that cannot all be written are written up to some point. -/
theorem storeAll_fault_writes {entries : List (String × Text.Bytes)}
    (wellFormed : session.files.WellFormed)
    (ran : storeAll output entries session = (.error fault, after)) :
    ∃ done, done <+: entries.dropLast ∧
      session.Writes (targets session.working output done) after := by
  obtain ⟨done, entry, rest, written, between, rfl, wrote, failed⟩ := storeAll_fault ran
  have storing := (storeAll_writes wellFormed wrote).1
  have last := storeOne_fault_writes storing.wellFormed failed
  refine ⟨done, ?_, by simpa using storing.trans last⟩
  rw [List.dropLast_append_of_ne_nil (List.cons_ne_nil entry rest)]
  exact List.prefix_append done _

/-- Makes sure of a directory and writes artifacts below it. -/
def storeBelow (output : FilePath) (entries : List (String × Text.Bytes)) :
    Action (List FilePath) := do
  Action.prepareDirectory output
  storeAll output entries

/-- Artifacts below a directory that cannot all be written are written up to some point. -/
theorem storeBelow_fault_writes {entries : List (String × Text.Bytes)}
    (wellFormed : session.files.WellFormed)
    (ran : storeBelow output entries session = (.error fault, after)) :
    ∃ done, done <+: entries.dropLast ∧
      session.Writes (targets session.working output done) after := by
  have preparing := Action.prepareDirectory_spares wellFormed output
  rcases bind_eq_error ran with made | ⟨_, prepared, made, storing⟩
  · rw [made] at preparing
    exact ⟨[], List.nil_prefix, preparing⟩
  · rw [made] at preparing
    obtain ⟨done, first, storing⟩ := storeAll_fault_writes preparing.wellFormed storing
    rw [preparing.working] at storing
    exact ⟨done, first, preparing.trans storing⟩

/-- Artifacts below a directory that are all written can be read there. -/
theorem storeBelow_writes {entries : List (String × Text.Bytes)} {written : List FilePath}
    (wellFormed : session.files.WellFormed)
    (ran : storeBelow output entries session = (.ok written, after)) :
    session.Writes (targets session.working output entries) after ∧
      ∀ entry ∈ entries, ∃ path, resolve output entry.1 = some path ∧
        after.files.LeadsToFile after.working path := by
  obtain ⟨_, prepared, made, wrote⟩ := bind_eq_ok ran
  have preparing := Action.prepareDirectory_writes wellFormed made
  obtain ⟨storing, leads⟩ := storeAll_writes preparing.wellFormed wrote
  rw [preparing.working] at storing
  exact ⟨preparing.trans storing, leads⟩

/-- Class files are saved as artifacts below their directory. -/
theorem storeClasses_eq (files : Keyed Text.Bytes) (output : FilePath) :
    storeClasses files output = (do
      let written ← storeBelow output files.entries
      Action.log .info "artifacts_saved" [("output_dir", .text output.text),
        ("count", .int written.length)]
      return written) := by
  simp only [storeClasses, storeBelow, bind_assoc]

/-- The report is named like an artifact. -/
theorem resolve_reportName (output : FilePath) :
    resolve output reportName = some (reportPath output) := by
  have spelled : FilePath.ofText (withSlashes reportName) = ⟨"", [reportName]⟩ := by decide
  have named : reportName ≠ "" := by decide
  have downwards : ".." ≠ reportName := by decide
  simp [resolve, spelled, named, downwards, FilePath.isAbsolute, reportPath, FilePath.append]

/-- A report is saved as the one artifact below its directory. -/
theorem storeReport_eq (diagnostics : Diagnostics) (output : FilePath) :
    storeReport diagnostics output = (do
      let _ ← storeBelow output [(reportName, Text.Utf8.encode (Report.render diagnostics))]
      Action.log .info "errors_saved" [("path", .text (reportPath output).text),
        ("diagnostics", .int (diagnostics.count none))]
      return reportPath output) := by
  simp only [storeReport, storeBelow, storeAll, resolve_reportName, bind_assoc, pure_bind]
  rfl

end Artifacts

/-! ## Outcomes -/

/-- What is saved of an outcome, and what is returned then. -/
structure Saving where
  entries : List (String × Text.Bytes)
  response : CompileResponse
  deriving DecidableEq

/-- What is saved of an outcome: its class files, or its report if nothing was compiled. -/
def Outcome.saving : Outcome → Except Fault Saving
  | .compilation (.compiled (.classes classes) _) => .ok ⟨classes.files.entries, ⟨true⟩⟩
  | .compilation (.compiled artifact _) => .error (.unsuitable artifact.typeName "files")
  | outcome =>
      .ok ⟨[(Artifacts.reportName, Text.Utf8.encode (Report.render outcome.diagnostics))],
        ⟨false⟩⟩

/-- What is saved is either class files, for a success, or the one report, for a failure. -/
theorem Outcome.of_saving {outcome : Outcome} {saving : Saving}
    (saved : outcome.saving = .ok saving) :
    (∃ classes diagnostics, outcome = .compilation (.compiled (.classes classes) diagnostics) ∧
      saving = ⟨classes.files.entries, ⟨true⟩⟩) ∨
    ∃ content, saving = ⟨[(Artifacts.reportName, content)], ⟨false⟩⟩ := by
  unfold Outcome.saving at saved
  split at saved
  next classes diagnostics => exact .inl ⟨classes, diagnostics, rfl, (Except.ok.inj saved).symm⟩
  next => nomatch saved
  next => exact .inr ⟨_, (Except.ok.inj saved).symm⟩

/-- An outcome that is compiled without class files is of no use to a compilation to a directory,
and what is saved of any other decides how such a compilation goes on. -/
theorem Executor.compile_of_outcome {executor : Executor} {project : Project} (output : String)
    {session shaped : Session} {outcome : Outcome}
    (came : executor.compileClasses project session = (.ok outcome, shaped)) :
    match outcome.saving with
    | .error fault => executor.compile project output session = (.error fault, shaped)
    | .ok saving =>
        match Artifacts.storeBelow (.ofText output) saving.entries shaped with
        | (.error fault, stored) =>
            executor.compile project output session = (.error fault, stored)
        | (.ok _, stored) => ∃ events,
            executor.compile project output session =
              (.ok saving.response, stored.note events) := by
  unfold compile
  rw [bind_of_ok came]
  -- Executions and what is not compiled are reported by the same steps.
  have reports : ∀ diagnostics fields,
      match Artifacts.storeBelow (.ofText output)
        [(Artifacts.reportName, Text.Utf8.encode (Report.render diagnostics))] shaped with
      | (.error fault, stored) =>
          (do
            let _ ← Artifacts.storeReport diagnostics (.ofText output)
            Action.log .info "compile_failed" fields
            return ⟨false⟩ : Action CompileResponse) shaped = (.error fault, stored)
      | (.ok _, stored) => ∃ events,
          (do
            let _ ← Artifacts.storeReport diagnostics (.ofText output)
            Action.log .info "compile_failed" fields
            return ⟨false⟩ : Action CompileResponse) shaped =
              (.ok ⟨false⟩, stored.note events) := by
    intro diagnostics fields
    rw [Artifacts.storeReport_eq]
    split
    next fault stored saved => simp [bind_run, saved]
    next written stored saved => exact ⟨_, by simp [bind_run, map_run, saved, Except.map]; rfl⟩
  rcases outcome with result | ⟨artifact, diagnostics⟩ | diagnostics
  · exact reports _ _
  · cases artifact with
    | script | module => rfl
    | classes classes =>
        simp only [Outcome.saving, classFiles, pure_bind, Artifacts.storeClasses_eq]
        split
        next fault stored saved => simp [bind_run, saved]
        next written stored saved => exact ⟨_, by simp [bind_run, map_run, saved, Except.map]; rfl⟩
  · exact reports _ _

end Multitarget
