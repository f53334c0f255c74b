import Multitarget.Domain.Outcome
import Multitarget.Proofs.Domain.Merging

/-!
# What shaping keeps

Neither merging diagnostics nor keeping some of their files loses or repeats a
diagnostic. So shaping for a project with files keeps every error, whatever name
it was reported under, and leaves no name that is not a file's.
-/

namespace Multitarget

namespace Keyed

variable {α : Type}

/-- The values of the names that satisfy a test and those of the others are all values. -/
theorem values_filterKeys_perm (map : Keyed α) (test : String → Bool) :
    ((map.filterKeys test).values ++ (map.filterKeys fun name => !test name).values).Perm
      map.values := by
  simp only [values, entries_filterKeys, ← List.map_append]
  exact (List.filter_append_perm (fun entry => test entry.1) map.entries).map Prod.snd

end Keyed

namespace Diagnostics

/-! ## Errors -/

theorem hasErrors_eq (diagnostics : Diagnostics) :
    diagnostics.hasErrors = !diagnostics.errors.isEmpty := by
  simp only [hasErrors, errors]
  induction diagnostics.all with
  | nil => rfl
  | cons item rest ih => cases error : item.isError <;> simp [error, ih]

theorem hasErrors_eq_of_perm {left right : Diagnostics} (same : left.errors.Perm right.errors) :
    left.hasErrors = right.hasErrors := by
  rw [hasErrors_eq, hasErrors_eq, same.isEmpty_eq]

/-- The errors under the project's names and the other errors are all errors. -/
theorem errors_restrictedTo_perm (diagnostics : Diagnostics) (project : Project) :
    ((diagnostics.restrictedTo project.fileNames).errors ++ diagnostics.strayErrors project).Perm
      diagnostics.errors := by
  have parts := Keyed.values_filterKeys_perm diagnostics.byFile
    fun name => project.fileNames.contains name
  simpa [errors, all, restrictedTo, strayErrors] using
    parts.flatten.filter Diagnostic.isError

/-- A project with files gets every error once, whatever name it was reported under. -/
theorem errors_forProject_perm (diagnostics : Diagnostics) {project : Project}
    (hasFiles : project.files ≠ []) :
    (diagnostics.forProject project).errors.Perm diagnostics.errors := by
  have parts := diagnostics.errors_restrictedTo_perm project
  have named : project.fileNames ≠ [] := by simpa [Project.fileNames] using hasFiles
  unfold forProject
  split
  next own => exact .refl _
  next foreign =>
    split
    next error errors first names stray firstName =>
      refine .trans ?_ parts
      have merged := ((diagnostics.restrictedTo project.fileNames).all_mergedWith_perm
        ⟨Keyed.ofList [(first, error :: errors)]⟩).filter Diagnostic.isError
      have moved : (error :: errors).filter Diagnostic.isError = error :: errors := by
        rw [← stray, strayErrors, List.filter_filter]
        simp
      simpa [Diagnostics.errors, all, Keyed.ofList, Keyed.insert, Keyed.alter, Keyed.place,
        Keyed.values, stray, moved] using merged
    next none =>
      cases stray : diagnostics.strayErrors project with
      | nil => simpa [stray] using parts
      | cons error errors =>
          cases names : project.fileNames with
          | nil => exact absurd names named
          | cons first others => exact absurd names (none error errors first others stray)

/-- Shaped diagnostics are kept under names of the project's files. -/
theorem mem_fileNames_of_mem_forProject (diagnostics : Diagnostics) (project : Project)
    {name : String} (present : name ∈ (diagnostics.forProject project).byFile.keys) :
    name ∈ project.fileNames := by
  have kept : ∀ key, key ∈ (diagnostics.restrictedTo project.fileNames).byFile.keys →
      key ∈ project.fileNames := by
    intro key inside
    rw [keys_restrictedTo, List.mem_filter] at inside
    exact List.contains_iff_mem.mp inside.2
  unfold forProject at present
  split at present
  next own =>
    have known := List.filter_eq_nil_iff.mp own name present
    simpa using known
  next foreign =>
    split at present
    next error errors first names stray firstName =>
      rcases (mem_keys_mergedWith _ _ name).mp present with inside | moved
      · exact kept name inside
      · obtain rfl : name = first := by
          simpa [Keyed.ofList, Keyed.insert, Keyed.alter, Keyed.place, Keyed.keys] using moved
        simp [firstName]
    next none => exact kept name present

/-- Every name of shaped diagnostics is the name of exactly one file of the project. -/
theorem count_fileNames_of_mem_forProject (diagnostics : Diagnostics) (project : Project)
    {name : String} (present : name ∈ (diagnostics.forProject project).byFile.keys) :
    project.fileNames.count name = 1 := by
  have distinct : project.fileNames.Nodup := project.distinct
  rw [distinct.count, if_pos (diagnostics.mem_fileNames_of_mem_forProject project present)]

end Diagnostics

end Multitarget
