import Multitarget.Proofs.Executor.Containment
import Multitarget.Proofs.Executor.Saving

/-!
# Reports that stay

A compilation that fails leaves its report below the output directory, and nothing takes it
away: neither a compilation that succeeds nor one that ends with a fault. So after any
number of compilations to one directory, the report tells that some of them failed.
-/

namespace Multitarget

open FileTree (locate)

namespace Outcome

/-- Shaping makes class files of nothing but class files. -/
theorem of_shapeCompilation_compiled {outcome : Outcome} {project : Project}
    {artifact : Artifact} {diagnostics : Diagnostics}
    (shaped : outcome.shapeCompilation project = .compilation (.compiled artifact diagnostics)) :
    ∃ original, outcome = .compilation (.compiled artifact original) := by
  rcases outcome with result | ⟨produced, original⟩ | original
  · simp only [shapeCompilation] at shaped
    split at shaped <;> simp at shaped
  · simp only [shapeCompilation, Compilation.shape] at shaped
    split at shaped
    · simp at shaped
    · simp only [Outcome.compilation.injEq, Compilation.compiled.injEq] at shaped
      exact ⟨original, by rw [shaped.1]⟩
  · simp [shapeCompilation, Compilation.shape] at shaped

end Outcome

namespace Artifacts

/-- Artifacts that spare the report write nothing at its place. -/
theorem lastWrite_report {working : Location} {output : FilePath} {files : Keyed Text.Bytes}
    {done : List (String × Text.Bytes)}
    (spares : ∀ artifact ∈ files.keys, resolve output artifact ≠ some (reportPath output))
    (first : done <+: files.entries) :
    lastWrite (targets working output done) (locate working (reportPath output)) = none := by
  apply lastWrite_targets_elsewhere
  intro entry present path resolved same
  have listed : entry.1 ∈ files.keys := List.mem_map_of_mem (first.subset present)
  have alike := (locate_inj (resolve_reportName output) resolved).mp same
  exact spares entry.1 listed (alike ▸ resolved)

end Artifacts

namespace Executor

variable {executor : Executor} {project : Project} {output : String} {session after : Session}

/-- Whether no class file that the backend gives for a project takes the place of the report. -/
def SparesReport (executor : Executor) (project : Project) (output : FilePath) : Prop :=
  ∀ context classes diagnostics,
    Primary.compileClasses.Answers executor.backends project
      (SourceHandle.ofProject context project)
      (.ok (.outcome (.compilation (.compiled (.classes classes) diagnostics)))) →
    ∀ artifact ∈ classes.files.keys,
      Artifacts.resolve output artifact ≠ some (Artifacts.reportPath output)

/-- Class files that a compilation gives are those of its backend. -/
theorem compileClasses_spares {classes : ClassFiles} {diagnostics : Diagnostics}
    {shaped : Session} {directory : FilePath} (spares : executor.SparesReport project directory)
    (came : executor.compileClasses project session =
      (.ok (.compilation (.compiled (.classes classes) diagnostics)), shaped)) :
    ∀ artifact ∈ classes.files.keys,
      Artifacts.resolve directory artifact ≠ some (Artifacts.reportPath directory) := by
  have performed : Primary.compileClasses.perform executor project session = _ := came
  obtain ⟨_, _, ⟨_, vacant⟩ | ⟨_, offered, offers, ending⟩⟩ :=
    Primary.of_perform_ok executor performed
  · simp only [Primary.vacant, Outcome.compilation.injEq, Compilation.compiled.injEq,
      Artifact.classes.injEq] at vacant
    simp [vacant.1, ClassFiles.empty, Keyed.empty, Keyed.keys]
  · rcases offered with (exception | (reply | proposals)) | exception | exception
    · cases ending
    · have shaping : reply.shapeCompilation project =
          .compilation (.compiled (.classes classes) diagnostics) := Except.ok.inj ending
      obtain ⟨original, rfl⟩ := Outcome.of_shapeCompilation_compiled shaping
      exact spares _ _ _ offers
    · cases ending
    · cases ending
    · cases ending

/-- However a compilation to a directory ends, it leaves the report of a failure if that is what
it returns, and writes nothing at the place of the report if it is not. -/
theorem compile_writes {ending : Except Fault CompileResponse}
    (wellFormed : session.files.WellFormed)
    (spares : executor.SparesReport project (.ofText output))
    (ran : executor.compile project output session = (ending, after)) :
    let report := Artifacts.reportPath (.ofText output)
    ∃ writes, session.Writes writes after ∧
      (ending = .ok ⟨false⟩ ∧ after.files.LeadsToFile after.working report ∨
        ending ≠ .ok ⟨false⟩ ∧ lastWrite writes (locate session.working report) = none) := by
  intro report
  have passes := Primary.compileClasses.perform_passes executor project wellFormed
  change session.Passes (executor.compileClasses project session).2 at passes
  rcases came : executor.compileClasses project session with ⟨fault | outcome, shaped⟩
  · rw [compile_of_fault output (congrArg Prod.fst came), came, ended_inj] at ran
    rw [came] at passes
    obtain ⟨rfl, rfl⟩ := ran
    exact ⟨[], .of_passes wellFormed passes, .inr ⟨by simp, rfl⟩⟩
  rw [came] at passes
  have untouched := Session.Writes.of_passes wellFormed passes
  have persisted := compile_of_outcome output came
  rw [ran] at persisted
  cases saved : outcome.saving with
  | error fault =>
      simp only [saved, ended_inj] at persisted
      obtain ⟨rfl, rfl⟩ := persisted
      exact ⟨[], untouched, .inr ⟨by simp, rfl⟩⟩
  | ok saving =>
      simp only [saved] at persisted
      rcases stored : Artifacts.storeBelow (.ofText output) saving.entries shaped with
        ⟨fault | written, final⟩
      · -- A report that could not be saved is not there, and class files leave its place alone.
        simp only [stored, ended_inj] at persisted
        obtain ⟨rfl, rfl⟩ := persisted
        obtain ⟨done, first, storing⟩ :=
          Artifacts.storeBelow_fault_writes untouched.wellFormed stored
        rw [untouched.working] at storing
        refine ⟨_, untouched.trans storing, .inr ⟨by simp, ?_⟩⟩
        rcases Outcome.of_saving saved with ⟨classes, diagnostics, rfl, rfl⟩ | ⟨content, rfl⟩
        · exact Artifacts.lastWrite_report (compileClasses_spares spares came)
            (first.trans (List.dropLast_prefix _))
        · obtain rfl : done = [] := List.prefix_nil.mp first
          rfl
      · simp only [stored, ended_inj] at persisted
        obtain ⟨events, rfl, rfl⟩ := persisted
        obtain ⟨storing, leads⟩ := Artifacts.storeBelow_writes untouched.wellFormed stored
        rw [untouched.working] at storing
        refine ⟨_, (untouched.trans storing).note events, ?_⟩
        rcases Outcome.of_saving saved with ⟨classes, diagnostics, rfl, rfl⟩ | ⟨content, rfl⟩
        · exact .inr ⟨by simp, Artifacts.lastWrite_report (compileClasses_spares spares came)
            List.prefix_rfl⟩
        · obtain ⟨path, named, leading⟩ := leads _ (List.mem_singleton_self _)
          obtain rfl := Option.some.inj ((Artifacts.resolve_reportName _).symm.trans named)
          exact .inl ⟨rfl, leading⟩

end Executor

/-! ## Compilations in a row -/

namespace Turn

variable {turns : List Turn} {output : String} {session : Session}

/-- After compilations to one directory the report of a failure is there if one of them failed; if
none did, nothing was written in its place. -/
theorem performAll_writes (compiles : ∀ turn ∈ turns, turn.request = .compile output)
    (spares : ∀ turn ∈ turns, turn.executor.SparesReport turn.project (.ofText output))
    (wellFormed : session.files.WellFormed) :
    let report := Artifacts.reportPath (.ofText output)
    ∃ endings after writes, performAll turns session = (.ok endings, after) ∧
      session.Writes writes after ∧
      (.ok (.compiled ⟨false⟩) ∈ endings ∧ after.files.LeadsToFile after.working report ∨
        .ok (.compiled ⟨false⟩) ∉ endings ∧
          lastWrite writes (locate session.working report) = none) := by
  intro report
  -- What the first turn leaves is still there after the others, whose writes it comes before.
  induction turns generalizing session with
  | nil => exact ⟨[], session, [], rfl, .of_passes wellFormed (.refl session), .inr (by simp)⟩
  | cons turn rest ih =>
      obtain ⟨asked, compilesRest⟩ := List.forall_mem_cons.mp compiles
      obtain ⟨sparing, sparesRest⟩ := List.forall_mem_cons.mp spares
      rcases ran : turn.executor.compile turn.project output session with ⟨ending, between⟩
      obtain ⟨first, writing, left⟩ := Executor.compile_writes wellFormed sparing ran
      obtain ⟨endings, after, later, performed, continuing, rest⟩ :=
        ih compilesRest sparesRest writing.wellFormed
      have began : turn.perform session = (ending.map .compiled, between) := by
        rw [perform, asked, Request.perform, map_run, ran]
      refine ⟨ending.map .compiled :: endings, after, first ++ later, ?_,
        writing.trans continuing, ?_⟩
      · rw [performAll_cons, began, performed]
        rfl
      · have failed : (.ok (.compiled ⟨false⟩) = ending.map Response.compiled) ↔
            ending = .ok ⟨false⟩ := by
          rcases ending with fault | response <;> simp [Except.map, eq_comm]
        rw [List.mem_cons, failed, lastWrite_append, ← writing.working]
        rcases rest with ⟨found, leads⟩ | ⟨unfound, unwritten⟩
        · exact .inl ⟨.inr found, leads⟩
        · rcases left with ⟨fails, leads⟩ | ⟨succeeds, untouched⟩
          · left
            rw [continuing.working] at *
            exact ⟨.inl fails, leads.grows continuing.grows⟩
          · right
            rw [writing.working] at *
            exact ⟨by simp [succeeds, unfound], by rw [unwritten, untouched]; rfl⟩

/-- After any number of compilations to one directory that held no report, there is a report if and
only if one of them returned a failure, whatever the later ones returned. -/
theorem report_iff_failed (compiles : ∀ turn ∈ turns, turn.request = .compile output)
    (spares : ∀ turn ∈ turns, turn.executor.SparesReport turn.project (.ofText output))
    (wellFormed : session.files.WellFormed)
    (fresh : session.files.contentAt
      (locate session.working (Artifacts.reportPath (.ofText output))) = none) :
    ∃ endings after, performAll turns session = (.ok endings, after) ∧
      ((∃ content, Action.readFile (Artifacts.reportPath (.ofText output)) after =
        (.ok content, after)) ↔ .ok (.compiled ⟨false⟩) ∈ endings) := by
  obtain ⟨endings, after, writes, performed, writing, left⟩ :=
    performAll_writes compiles spares wellFormed
  refine ⟨endings, after, performed, ?_⟩
  rcases left with ⟨failed, leads⟩ | ⟨succeeded, unwritten⟩
  · simp only [failed, iff_true]
    exact Action.readable_of_leads leads
  · simp only [succeeded, iff_false]
    rintro ⟨content, read⟩
    have found := Action.contentAt_of_readFile writing.wellFormed read
    rw [writing.working, writing.contentAt, unwritten, fresh] at found
    simp at found

/-- Whether a turn that returned from a compilation to a directory succeeded. -/
def success? : Except Fault Response → Option Bool
  | .ok (.compiled response) => some response.success
  | _ => none

/-- A compilation to a directory that the backend answers with an outcome. -/
def compileAnswered (reply : Outcome) : Turn :=
  ⟨Scripted.executor [("jvm.compile", .ok (.outcome reply))], .single .java, .compile "out"⟩

/-- A compilation that fails, and then one that succeeds. -/
def failureThenSuccess : List Turn :=
  [compileAnswered (.compilation (.notCompiled (.single "File.kt" "unresolved reference" .error))),
    compileAnswered (.compilation (.compiled
      (.classes ⟨.ofList [("app/FileKt.class", [202, 254, 186, 190])], none⟩) .empty))]

/-- The report of a failure is still there when a later compilation has succeeded. -/
theorem report_outlives_success :
    ∃ endings after content, performAll failureThenSuccess Session.fresh = (.ok endings, after) ∧
      endings.map success? = [some false, some true] ∧
      Action.readFile (Artifacts.reportPath (.ofText "out")) after = (.ok content, after) := by
  have returns : (performAll failureThenSuccess Session.fresh).1.toOption.map
      (List.map success?) = some [some false, some true] := by
    decide +kernel
  have spares : ∀ turn ∈ failureThenSuccess,
      turn.executor.SparesReport turn.project (.ofText "out") := by
    intro turn listed context classes diagnostics answers artifact named
    simp only [failureThenSuccess, List.mem_cons, List.not_mem_nil, or_false] at listed
    rcases listed with rfl | rfl
    · cases answers
    · cases answers
      obtain rfl : artifact = "app/FileKt.class" := List.mem_singleton.mp named
      decide
  obtain ⟨endings, after, performed, reported⟩ :=
    report_iff_failed (by simp [failureThenSuccess, compileAnswered]) spares
      Executor.wellFormed_fresh (by decide)
  rw [performed] at returns
  have verdicts : endings.map success? = [some false, some true] := by
    simpa [Except.toOption] using returns
  have failed : .ok (.compiled ⟨false⟩) ∈ endings := by
    have some : some false ∈ endings.map success? := by simp [verdicts]
    obtain ⟨ending, listed, fails⟩ := List.mem_map.mp some
    rcases ending with fault | (_ | ⟨⟨_⟩⟩ | _ | _) <;> simp [success?] at fails
    subst fails
    exact listed
  obtain ⟨content, read⟩ := reported.mpr failed
  exact ⟨endings, after, content, performed, verdicts, read⟩

end Turn

end Multitarget
