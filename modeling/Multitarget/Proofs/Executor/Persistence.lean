import Multitarget.Proofs.Domain.Report
import Multitarget.Proofs.Executor.Artifacts
import Multitarget.Proofs.Executor.Verdict

/-!
# What compiling leaves behind

A compilation that returns has left either its class files or its report below the
output directory, depending on what came of it, and every other file of the tree as
it was. A report that stands for errors is never empty.
-/

namespace Multitarget

namespace Artifacts

open FileTree (locate)

/-- Between two sessions class files were saved: each path has the last of its artifacts, and all
other files are as before. -/
structure Saved (output : FilePath) (files : Keyed Text.Bytes) (before after : Session) :
    Prop where
  held : ∀ artifact ∈ files.keys, ∃ path content, resolve output artifact = some path ∧
    lastContent output files.entries path = some content ∧
    Action.readFile path after = (.ok content, after)
  elsewhere : ∀ location,
    (∀ artifact ∈ files.keys, ∀ path, resolve output artifact = some path →
      location ≠ locate before.working path) →
    after.files.contentAt location = before.files.contentAt location

/-- Between two sessions diagnostics were reported: the report holds them, and all other files are
as before. -/
structure Reported (output : FilePath) (diagnostics : Diagnostics) (before after : Session) :
    Prop where
  held : Action.readFile (reportPath output) after =
    (.ok (Text.Utf8.encode (Report.render diagnostics)), after)
  elsewhere : ∀ location, location ≠ locate before.working (reportPath output) →
    after.files.contentAt location = before.files.contentAt location

/-- A path that an artifact is resolved for has some last content. -/
theorem exists_lastContent {output path : FilePath} {entries : List (String × Text.Bytes)}
    {entry : String × Text.Bytes} (present : entry ∈ entries)
    (resolved : resolve output entry.1 = some path) :
    ∃ content, lastContent output entries path = some content := by
  have listed : entry ∈ entries.filter fun other => resolve output other.1 = some path := by
    simp [present, resolved]
  cases last : (entries.filter fun other => resolve output other.1 = some path).getLast? with
  | none =>
      rw [List.getLast?_eq_none_iff] at last
      simp [last] at listed
  | some other => exact ⟨other.2, by rw [lastContent, last]; rfl⟩

theorem saved_of_writes {output : FilePath} {files : Keyed Text.Bytes} {before after : Session}
    (writes : before.Writes (targets before.working output files.entries) after)
    (leads : ∀ entry ∈ files.entries, ∃ path, resolve output entry.1 = some path ∧
      after.files.LeadsToFile after.working path) :
    Saved output files before after where
  held artifact named := by
    obtain ⟨entry, present, rfl⟩ := List.mem_map.mp named
    obtain ⟨path, resolved, leading⟩ := leads entry present
    obtain ⟨content, last⟩ := exists_lastContent present resolved
    refine ⟨path, content, resolved, last, Action.readFile_run writes.wellFormed leading ?_⟩
    rw [writes.working, writes.contentAt, lastWrite_targets resolved, last, Option.some_or]
  elsewhere location apart := by
    have unwritten := lastWrite_targets_elsewhere fun entry present =>
      apart entry.1 (List.mem_map_of_mem present)
    rw [writes.contentAt, unwritten, Option.none_or]

theorem reported_of_writes {output : FilePath} {diagnostics : Diagnostics}
    {before after : Session}
    (writes : before.Writes [(locate before.working (reportPath output),
      Text.Utf8.encode (Report.render diagnostics))] after)
    (leads : after.files.LeadsToFile after.working (reportPath output)) :
    Reported output diagnostics before after where
  held := by
    refine Action.readFile_run writes.wellFormed leads ?_
    rw [writes.working, writes.contentAt, lastWrite_singleton, if_pos rfl, Option.some_or]
  elsewhere location apart := by
    rw [writes.contentAt, lastWrite_singleton, if_neg apart.symm, Option.none_or]

end Artifacts

namespace Executor

variable {executor : Executor} {project : Project} {output : String}
  {session shaped after : Session} {response : CompileResponse}

/-- What comes of a compilation decides what a compilation to a directory does next. -/
theorem compile_run_of_classes {outcome : Outcome}
    (came : executor.compileClasses project session = (.ok outcome, shaped))
    (returned : executor.compile project output session = (.ok response, after)) :
    (∃ classes diagnostics written stored events,
      outcome = .compilation (.compiled (.classes classes) diagnostics) ∧
      Artifacts.storeClasses classes.files (FilePath.ofText output) shaped =
        (.ok written, stored) ∧
      after = stored.note events ∧ response = ⟨true⟩) ∨
    ((∀ artifact diagnostics, outcome ≠ .compilation (.compiled artifact diagnostics)) ∧
      ∃ path stored events,
        Artifacts.storeReport outcome.diagnostics (FilePath.ofText output) shaped =
          (.ok path, stored) ∧
        after = stored.note events ∧ response = ⟨false⟩) := by
  unfold compile at returned
  rw [bind_of_ok came] at returned
  -- Executions and what is not compiled are reported by the same steps.
  have reports : ∀ {diagnostics fields},
      (do
        let _ ← Artifacts.storeReport diagnostics (FilePath.ofText output)
        Action.log .info "compile_failed" fields
        return ⟨false⟩ : Action CompileResponse) shaped = (.ok response, after) →
      ∃ path stored events,
        Artifacts.storeReport diagnostics (FilePath.ofText output) shaped = (.ok path, stored) ∧
        after = stored.note events ∧ response = ⟨false⟩ := by
    intro diagnostics fields ran
    obtain ⟨path, stored, wrote, rest⟩ := bind_eq_ok ran
    rw [bind_of_ok (Action.log_run _ _ _ stored), pure_run, ended_inj] at rest
    obtain ⟨same, rfl⟩ := rest
    exact ⟨path, stored, _, wrote, rfl, (Except.ok.inj same).symm⟩
  rcases outcome with result | ⟨artifact, diagnostics⟩ | diagnostics
  · exact .inr ⟨by simp, reports returned⟩
  · left
    obtain ⟨classes, between, held, rest⟩ := bind_eq_ok returned
    cases artifact with
    | script | module => simp [classFiles] at held
    | classes files =>
        rw [classFiles, pure_run, ended_inj] at held
        obtain ⟨same, rfl⟩ := held
        obtain rfl := Except.ok.inj same
        obtain ⟨written, stored, wrote, rest⟩ := bind_eq_ok rest
        rw [bind_of_ok (Action.log_run _ _ _ stored), pure_run, ended_inj] at rest
        obtain ⟨same, rfl⟩ := rest
        exact ⟨_, _, written, stored, _, rfl, wrote, rfl, (Except.ok.inj same).symm⟩
  · exact .inr ⟨by simp, reports returned⟩

theorem wellFormed_fresh : Session.fresh.files.WellFormed :=
  FileTree.wellFormed_empty.put rfl (by simp [FileTree.get?, FileTree.empty, FileTree.find])

end Executor

end Multitarget
