import Multitarget.Proofs.Domain.Restriction

/-!
# Shaping twice

What shaping gives has the names of the project's files only, and errors only where nothing
was produced. So a second shaping finds nothing to do: it gives back the very result that it
gets, and the log stays as it was.
-/

namespace Multitarget

variable (project : Project)

namespace Diagnostics

variable (diagnostics : Diagnostics)

@[simp] theorem foreignNames_forProject :
    (diagnostics.forProject project).foreignNames project = [] :=
  (foreignNames_eq_nil _ project).mpr fun _ present =>
    diagnostics.mem_fileNames_of_mem_forProject project present

@[simp] theorem forProject_forProject :
    (diagnostics.forProject project).forProject project = diagnostics.forProject project := by
  rw [forProject, if_pos (diagnostics.foreignNames_forProject project)]

@[simp] theorem forProjectLog_forProject :
    (diagnostics.forProject project).forProjectLog project = [] := by
  rw [forProjectLog, if_pos (diagnostics.foreignNames_forProject project)]

@[simp] theorem replacement?_forProject :
    (diagnostics.forProject project).replacement? project = none :=
  if_pos (diagnostics.foreignNames_forProject project)

@[simp] theorem getD_replacement? :
    (diagnostics.replacement? project).getD diagnostics = diagnostics.forProject project := by
  unfold replacement?
  split
  next own => rw [forProject, if_pos own, Option.getD_none]
  next foreign => rfl

end Diagnostics

namespace Execution

/-- Whether shaping gives back the very execution that it gets, and logs nothing. -/
def IsSettled (execution : Execution) : Prop :=
  execution.replacement? project = none ∧ execution.shapeLog project = []

variable (execution : Execution)

/-- What takes the place of an execution, or else the execution itself, is the shaped one. -/
theorem getD_replacement? :
    (execution.replacement? project).getD execution = execution.shape project := by
  rw [shape, ← execution.diagnostics.getD_replacement? project]
  exact Option.getD_map _ execution.diagnostics _

theorem isSettled_shape : (execution.shape project).IsSettled project :=
  ⟨by simp [replacement?, shape], by simp [shapeLog, shape]⟩

end Execution

namespace Compilation

variable {α : Type}

/-- Whether shaping gives back the very compilation that it gets, and logs nothing. -/
def IsSettled (compilation : Compilation α) : Prop :=
  compilation.replacement? project = none ∧ compilation.shapeLog project = []

variable {project} {result : α} {diagnostics : Diagnostics}

theorem shape_of_errors (errors : (diagnostics.forProject project).hasErrors = true) :
    (compiled result diagnostics).shape project = .notCompiled (diagnostics.forProject project) :=
  if_pos errors

theorem shape_of_clean (clean : (diagnostics.forProject project).hasErrors = false) :
    (compiled result diagnostics).shape project =
      .compiled result (diagnostics.forProject project) :=
  if_neg (Bool.eq_false_iff.mp clean)

theorem shape_notCompiled :
    (notCompiled diagnostics : Compilation α).shape project =
      .notCompiled (diagnostics.forProject project) := rfl

variable (project) (compilation : Compilation α)

/-- What takes the place of a compilation, or else the compilation itself, is the shaped one. -/
theorem getD_replacement? :
    (compilation.replacement? project).getD compilation = compilation.shape project := by
  cases compilation with
  | compiled result diagnostics =>
      have kept := diagnostics.getD_replacement? project
      cases errors : (diagnostics.forProject project).hasErrors with
      | true => simp [replacement?, Compilation.diagnostics, kept, errors, shape_of_errors]
      | false =>
          simp [replacement?, Compilation.diagnostics, kept, errors, shape_of_clean,
            Option.getD_map]
  | notCompiled diagnostics =>
      simp [replacement?, Compilation.diagnostics, shape_notCompiled, Option.getD_map]

/-- What counts as produced after shaping was produced, and has no errors. -/
theorem of_shape_eq_compiled (produced : compilation.shape project = .compiled result diagnostics) :
    diagnostics.hasErrors = false ∧ ∃ reported, compilation = .compiled result reported := by
  cases compilation with
  | compiled own reported =>
      cases errors : (reported.forProject project).hasErrors with
      | true =>
          rw [shape_of_errors errors] at produced
          cases produced
      | false =>
          rw [shape_of_clean errors] at produced
          cases produced
          exact ⟨errors, reported, rfl⟩
  | notCompiled reported => cases produced

theorem isSettled_notCompiled :
    (notCompiled (diagnostics.forProject project) : Compilation α).IsSettled project := by
  simp [IsSettled, replacement?, shapeLog, isDemoted, isCompiled, Compilation.diagnostics]

theorem isSettled_compiled (clean : (diagnostics.forProject project).hasErrors = false) :
    (compiled result (diagnostics.forProject project)).IsSettled project := by
  simp [IsSettled, replacement?, shapeLog, isDemoted, isCompiled, Compilation.diagnostics, shape,
    clean]

/-- Shaping leaves a compilation of which nothing was produced, or one without errors. -/
theorem isSettled_shape : (compilation.shape project).IsSettled project := by
  cases compilation with
  | compiled result diagnostics =>
      cases errors : (diagnostics.forProject project).hasErrors with
      | true =>
          rw [shape_of_errors errors]
          exact isSettled_notCompiled project
      | false =>
          rw [shape_of_clean errors]
          exact isSettled_compiled project errors
  | notCompiled diagnostics => exact isSettled_notCompiled project

end Compilation

/-- Shaping is done in one go. An execution keeps its kind and all but its diagnostics; of a
compilation nothing counts as produced that was not, or that has errors; and what comes of
either is given back as it is, with nothing logged, when it is shaped again. -/
theorem Project.shaping_settles {α : Type} :
    (∀ execution : Execution,
      (execution.replacement? project).getD execution = execution.shape project ∧
      (execution.shape project).kind = execution.kind ∧
      (∃ diagnostics, execution.shape project = { execution with diagnostics }) ∧
      (execution.shape project).IsSettled project) ∧
    (∀ compilation : Compilation α,
      (compilation.replacement? project).getD compilation = compilation.shape project ∧
      (∀ result diagnostics, compilation.shape project = .compiled result diagnostics →
        diagnostics.hasErrors = false ∧ ∃ reported, compilation = .compiled result reported) ∧
      (compilation.shape project).IsSettled project) := by
  refine ⟨fun execution => ?_, fun compilation => ?_⟩
  · exact ⟨execution.getD_replacement? project, rfl, ⟨_, rfl⟩, execution.isSettled_shape project⟩
  · exact ⟨compilation.getD_replacement? project,
      fun _ _ produced => compilation.of_shape_eq_compiled project produced,
      compilation.isSettled_shape project⟩

/-- A warning under a foreign name, beside a file without diagnostics. -/
def Diagnostics.remarked : Diagnostics :=
  ⟨⟨[("gen.kt", [⟨none, "unused", .warning, none⟩]), ("a.kt", [])], by decide⟩⟩

/-- A foreign warning takes no payload away; once it is gone, the compilation stays itself. -/
theorem Project.shaping_settles_remarked :
    ∃ compilation : Compilation ClassFiles,
      (Compilation.compiled .empty .remarked).replacement? pair = some compilation ∧
      (Compilation.compiled .empty .remarked).shape pair = compilation ∧
      compilation = .compiled .empty ⟨⟨[("a.kt", [])], by decide⟩⟩ ∧
      compilation.IsSettled pair := by
  obtain ⟨_, _, settled⟩ := (shaping_settles pair).2 (.compiled ClassFiles.empty .remarked)
  exact ⟨_, by decide, rfl, by decide, settled⟩

end Multitarget
