import Multitarget.Proofs.Domain.Shaping

/-!
# What shaping changes

Shaping leaves the entries of the project's files in their order and their lists
as they were, up to one: the errors of all foreign entries go behind the list of
the project's first file, in the order of the foreign entries. That file gets an
entry at the end if it had none and there is such an error. Everything else that
stood under a foreign name is lost, and with no foreign name nothing changes.
-/

namespace Multitarget

namespace Keyed

variable {α : Type}

/-- Placing a value changes the entry of its name, wherever it stands, and adds one at the end
if there is none. -/
theorem place_eq (name : String) (change : Option α → α) {entries : List (String × α)}
    (distinct : (entries.map Prod.fst).Nodup) :
    place name change entries =
      (entries.map fun entry =>
        if entry.1 = name then (entry.1, change (some entry.2)) else entry) ++
      if name ∈ entries.map Prod.fst then [] else [(name, change none)] := by
  induction entries with
  | nil => simp [place]
  | cons entry rest ih =>
      obtain ⟨key, value⟩ := entry
      obtain ⟨absent, apart⟩ := List.nodup_cons.mp distinct
      by_cases same : key = name
      · subst same
        have unchanged : (rest.map fun entry : String × α =>
            if entry.1 = key then (entry.1, change (some entry.2)) else entry) = rest := by
          refine (List.map_congr_left fun entry inside => if_neg ?_).trans (List.map_id _)
          exact fun equal => absent (List.mem_map.mpr ⟨entry, inside, equal⟩)
        rw [place, if_pos rfl, List.map_cons, if_pos rfl, unchanged,
          if_pos (by simp), List.append_nil]
      · have other : name ≠ key := fun equal => same equal.symm
        simp only [place, if_neg same, List.map_cons, List.mem_cons, other, false_or,
          ih apart, List.cons_append]

end Keyed

namespace Diagnostics

/-! ## Own and foreign entries -/

/-- The entries under names of the project's files. -/
def ownEntries (diagnostics : Diagnostics) (project : Project) :
    List (String × List Diagnostic) :=
  diagnostics.byFile.entries.filter fun entry => project.fileNames.contains entry.1

/-- The entries under other names. -/
def foreignEntries (diagnostics : Diagnostics) (project : Project) :
    List (String × List Diagnostic) :=
  diagnostics.byFile.entries.filter fun entry => !project.fileNames.contains entry.1

/-- The errors under foreign names, in the order of the entries and of their lists. -/
def foreignErrors (diagnostics : Diagnostics) (project : Project) : List Diagnostic :=
  (diagnostics.foreignEntries project).flatMap fun entry => entry.2.filter Diagnostic.isError

/-- What stands under foreign names and is no error. -/
def foreignRemarks (diagnostics : Diagnostics) (project : Project) : List Diagnostic :=
  (diagnostics.foreignEntries project).flatMap fun entry =>
    entry.2.filter fun diagnostic => !diagnostic.isError

variable (diagnostics : Diagnostics) (project : Project)

theorem entries_restrictedTo :
    (diagnostics.restrictedTo project.fileNames).byFile.entries =
      diagnostics.ownEntries project := rfl

theorem foreignErrors_eq_filter :
    diagnostics.foreignErrors project =
      ((diagnostics.foreignEntries project).map Prod.snd).flatten.filter Diagnostic.isError := by
  rw [foreignErrors, List.flatMap_def, List.filter_flatten, List.map_map]
  rfl

theorem foreignRemarks_eq_filter :
    diagnostics.foreignRemarks project =
      ((diagnostics.foreignEntries project).map Prod.snd).flatten.filter
        fun diagnostic => !diagnostic.isError := by
  rw [foreignRemarks, List.flatMap_def, List.filter_flatten, List.map_map]
  rfl

theorem strayErrors_eq :
    diagnostics.strayErrors project = diagnostics.foreignErrors project :=
  (diagnostics.foreignErrors_eq_filter project).symm

theorem foreignNames_eq_nil :
    diagnostics.foreignNames project = [] ↔
      ∀ name ∈ diagnostics.byFile.keys, name ∈ project.fileNames := by
  simp [foreignNames, List.filter_eq_nil_iff]

/-- What all entries hold is what the own ones hold with the errors and the remarks of the
foreign ones. -/
theorem all_perm :
    (((diagnostics.ownEntries project).map Prod.snd).flatten ++
      (diagnostics.foreignErrors project ++ diagnostics.foreignRemarks project)).Perm
      diagnostics.all := by
  have parts := (diagnostics.byFile.values_filterKeys_perm
    fun name => project.fileNames.contains name).flatten
  rw [List.flatten_append] at parts
  rw [foreignErrors_eq_filter, foreignRemarks_eq_filter]
  exact ((List.filter_append_perm Diagnostic.isError _).append_left _).trans parts

/-! ## Shaped entries -/

/-- Without a foreign name every entry is an own one and there is nothing to move. -/
theorem ownEntries_of_foreignNames_eq_nil
    (own : diagnostics.foreignNames project = []) :
    diagnostics.ownEntries project = diagnostics.byFile.entries ∧
      diagnostics.foreignEntries project = [] := by
  have known := (diagnostics.foreignNames_eq_nil project).mp own
  have named : ∀ entry ∈ diagnostics.byFile.entries,
      project.fileNames.contains entry.1 = true := fun entry inside =>
    List.contains_iff_mem.mpr (known _ (List.mem_map.mpr ⟨entry, inside, rfl⟩))
  refine ⟨List.filter_eq_self.mpr named, List.filter_eq_nil_iff.mpr fun entry inside => ?_⟩
  simp only [named entry inside, Bool.not_true, Bool.false_eq_true, not_false_eq_true]

/-- The entries of shaped diagnostics are the own ones, the foreign errors placed under the
first file's name. -/
theorem entries_forProject_eq_place {first : ProjectFile} {others : List ProjectFile}
    (files : project.files = first :: others) :
    (diagnostics.forProject project).byFile.entries =
      if diagnostics.foreignErrors project = [] then diagnostics.ownEntries project
      else Keyed.place first.name
        (fun present => present.getD [] ++ diagnostics.foreignErrors project)
        (diagnostics.ownEntries project) := by
  have names : project.fileNames = first.name :: others.map ProjectFile.name := by
    simp [Project.fileNames, files]
  unfold forProject
  split
  next own =>
    obtain ⟨kept, none⟩ := diagnostics.ownEntries_of_foreignNames_eq_nil project own
    simp [kept, foreignErrors, none]
  next foreign =>
    rw [strayErrors_eq, names]
    cases errors : diagnostics.foreignErrors project with
    | nil => simp [← names, entries_restrictedTo]
    | cons error rest =>
        simp [← names, mergedWith, Keyed.ofList, Keyed.insert, Keyed.alter, Keyed.place,
          entries_restrictedTo]

/-- The entries of shaped diagnostics, one by one. -/
theorem entries_forProject {first : ProjectFile} {others : List ProjectFile}
    (files : project.files = first :: others) :
    (diagnostics.forProject project).byFile.entries =
      ((diagnostics.ownEntries project).map fun entry =>
        if entry.1 = first.name then (entry.1, entry.2 ++ diagnostics.foreignErrors project)
        else entry) ++
      if first.name ∈ (diagnostics.ownEntries project).map Prod.fst ∨
          diagnostics.foreignErrors project = [] then []
      else [(first.name, diagnostics.foreignErrors project)] := by
  have distinct : ((diagnostics.ownEntries project).map Prod.fst).Nodup :=
    (diagnostics.restrictedTo project.fileNames).byFile.nodup
  rw [diagnostics.entries_forProject_eq_place project files]
  by_cases nothing : diagnostics.foreignErrors project = []
  · simp [nothing]
  · rw [if_neg nothing, Keyed.place_eq _ _ distinct]
    simp only [nothing, or_false, Option.getD_some, Option.getD_none, List.nil_append]

/-- The diagnostics that shaping loses are those under foreign names that are no errors. -/
theorem all_forProject_perm (hasFiles : project.files ≠ []) :
    ((diagnostics.forProject project).all ++ diagnostics.foreignRemarks project).Perm
      diagnostics.all := by
  obtain ⟨first, others, files⟩ := List.exists_cons_of_ne_nil hasFiles
  have moved : (diagnostics.forProject project).all.Perm
      (((diagnostics.ownEntries project).map Prod.snd).flatten ++
        diagnostics.foreignErrors project) := by
    rw [all, Keyed.values, diagnostics.entries_forProject_eq_place project files]
    split
    next nothing => simp [nothing]
    next some => exact Keyed.flatten_place_perm _ _ _
  refine (moved.append_right _).trans ?_
  rw [List.append_assoc]
  exact diagnostics.all_perm project

/-- Shaping for a project with files adds no diagnostic. -/
theorem mem_all_of_forProject {diagnostic : Diagnostic} (hasFiles : project.files ≠ [])
    (held : diagnostic ∈ (diagnostics.forProject project).all) : diagnostic ∈ diagnostics.all :=
  (diagnostics.all_forProject_perm project hasFiles).subset (List.mem_append_left _ held)

/-- Nothing is logged exactly if there is no foreign name. -/
theorem forProjectLog_eq_nil :
    diagnostics.forProjectLog project = [] ↔
      ∀ name ∈ diagnostics.byFile.keys, name ∈ project.fileNames := by
  rw [← foreignNames_eq_nil]
  unfold forProjectLog
  constructor
  · intro silent
    by_cases own : diagnostics.foreignNames project = []
    · exact own
    · simp [own] at silent
  · intro own
    simp [own]

/-- Shaping changes nothing exactly if there is no foreign name. -/
theorem forProject_eq_self :
    diagnostics.forProject project = diagnostics ↔
      ∀ name ∈ diagnostics.byFile.keys, name ∈ project.fileNames := by
  constructor
  · intro same name present
    exact diagnostics.mem_fileNames_of_mem_forProject project (same.symm ▸ present)
  · intro own
    rw [forProject, if_pos ((diagnostics.foreignNames_eq_nil project).mpr own)]

/-! ## The shaped diagnostics as a whole -/

/-- Shaping for a project with files keeps the own entries in their order and with their lists,
puts all foreign errors behind the list of the first file, with a new entry at the end only if
that file had none, and loses nothing but foreign remarks; it changes nothing and logs nothing
exactly if every name is a file's. -/
theorem forProject_restricts {first : ProjectFile} {others : List ProjectFile}
    (files : project.files = first :: others) :
    ((diagnostics.forProject project).byFile.entries =
      ((diagnostics.ownEntries project).map fun entry =>
        if entry.1 = first.name then (entry.1, entry.2 ++ diagnostics.foreignErrors project)
        else entry) ++
      if first.name ∈ (diagnostics.ownEntries project).map Prod.fst ∨
          diagnostics.foreignErrors project = [] then []
      else [(first.name, diagnostics.foreignErrors project)]) ∧
    (∀ name ∈ (diagnostics.forProject project).byFile.keys, name ∈ project.fileNames) ∧
    ((diagnostics.forProject project).all ++ diagnostics.foreignRemarks project).Perm
      diagnostics.all ∧
    (diagnostics.forProject project = diagnostics ↔
      ∀ name ∈ diagnostics.byFile.keys, name ∈ project.fileNames) ∧
    (diagnostics.forProjectLog project = [] ↔
      ∀ name ∈ diagnostics.byFile.keys, name ∈ project.fileNames) := by
  have hasFiles : project.files ≠ [] := by simp [files]
  exact ⟨diagnostics.entries_forProject project files,
    fun _ present => diagnostics.mem_fileNames_of_mem_forProject project present,
    diagnostics.all_forProject_perm project hasFiles,
    diagnostics.forProject_eq_self project, diagnostics.forProjectLog_eq_nil project⟩

end Diagnostics

/-- A project of two files. -/
def Project.pair : Project :=
  ⟨"", [⟨"a.kt", ""⟩, ⟨"b.kt", ""⟩], .java, false, by decide⟩

/-- Errors under two foreign names, before and behind the first file's empty list, and warnings
under a foreign name and the second file's. -/
def Diagnostics.scattered : Diagnostics :=
  ⟨⟨[("gen.kt", [⟨none, "unresolved", .error, none⟩, ⟨none, "unused", .warning, none⟩]),
      ("b.kt", [⟨none, "shadowed", .warning, none⟩]),
      ("a.kt", []),
      ("lib.kt", [⟨none, "missing", .error, none⟩])], by decide⟩⟩

theorem Diagnostics.forProject_restricts_scattered :
    Project.pair.files = ⟨"a.kt", ""⟩ :: [⟨"b.kt", ""⟩] ∧
    (scattered.forProject Project.pair).byFile.entries =
      [("b.kt", [⟨none, "shadowed", .warning, none⟩]),
        ("a.kt", [⟨none, "unresolved", .error, none⟩, ⟨none, "missing", .error, none⟩])] ∧
    scattered.foreignRemarks Project.pair = [⟨none, "unused", .warning, none⟩] ∧
    scattered.forProjectLog Project.pair ≠ [] := by
  obtain ⟨entries, -, -, -, silent⟩ :=
    @forProject_restricts scattered Project.pair ⟨"a.kt", ""⟩ [⟨"b.kt", ""⟩] rfl
  refine ⟨rfl, entries.trans (by decide), by decide, fun quiet => ?_⟩
  exact absurd (silent.mp quiet "gen.kt" (by decide)) (by decide)

end Multitarget
