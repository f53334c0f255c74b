import Multitarget.Domain.Project
import Multitarget.Domain.Result
import Multitarget.Log.Record

/-!
# Shaping results

A result that reaches the caller names files of the project only. Errors
reported under other names move to the project's first file, and a compilation
with errors is none.
-/

namespace Multitarget

namespace Diagnostics

/-- The names of entries that are no files of the project. -/
def foreignNames (diagnostics : Diagnostics) (project : Project) : List String :=
  diagnostics.byFile.keys.filter fun name => !project.fileNames.contains name

/-- The errors of entries that are no files of the project. -/
def strayErrors (diagnostics : Diagnostics) (project : Project) : List Diagnostic :=
  (diagnostics.byFile.filterKeys fun name =>
    !project.fileNames.contains name).values.flatten.filter Diagnostic.isError

/-- The diagnostics under names of the project's files: foreign entries are dropped, but their
errors move to the first file. -/
def forProject (diagnostics : Diagnostics) (project : Project) : Diagnostics :=
  if diagnostics.foreignNames project = [] then diagnostics
  else
    let restricted := diagnostics.restrictedTo project.fileNames
    match diagnostics.strayErrors project, project.fileNames with
    | error :: errors, first :: _ =>
      restricted.mergedWith ⟨Keyed.ofList [(first, error :: errors)]⟩
    | _, _ => restricted

/-- What is logged when foreign entries are dropped. -/
def forProjectLog (diagnostics : Diagnostics) (project : Project) : List Log.Record :=
  let foreign := diagnostics.foreignNames project
  if foreign = [] then []
  else
    let stray := diagnostics.strayErrors project
    let moved : List Log.Record :=
      match stray, project.fileNames with
      | _ :: _, first :: _ =>
        [⟨.warning, "foreign_errors_rekeyed", [("files", Log.textList foreign),
          ("errors", .int stray.length), ("rekeyed_to", .text first)]⟩]
      | _, _ => []
    moved ++ [⟨.warning, "foreign_diagnostics_dropped", [("files", Log.textList foreign),
      ("project_files", Log.textList project.fileNames)]⟩]

/-- What takes the place of diagnostics when they are kept under names of the project's files only;
nothing where they stay themselves. -/
def replacement? (diagnostics : Diagnostics) (project : Project) : Option Diagnostics :=
  if diagnostics.foreignNames project = [] then none
  else some (diagnostics.forProject project)

end Diagnostics

namespace Execution

/-- The execution with its diagnostics under names of the project's files. -/
def shape (execution : Execution) (project : Project) : Execution :=
  { execution with diagnostics := execution.diagnostics.forProject project }

/-- What is logged when an execution is shaped. -/
def shapeLog (execution : Execution) (project : Project) : List Log.Record :=
  execution.diagnostics.forProjectLog project

/-- What takes the place of an execution when it is shaped; nothing where it stays itself. -/
def replacement? (execution : Execution) (project : Project) : Option Execution :=
  (execution.diagnostics.replacement? project).map fun diagnostics =>
    { execution with diagnostics }

end Execution

namespace Compilation

variable {α : Type}

/-- The compilation with its diagnostics under names of the project's files; with errors among
them nothing counts as produced. -/
def shape (compilation : Compilation α) (project : Project) : Compilation α :=
  let diagnostics := compilation.diagnostics.forProject project
  match compilation with
  | .compiled result _ =>
    if diagnostics.hasErrors then .notCompiled diagnostics else .compiled result diagnostics
  | .notCompiled _ => .notCompiled diagnostics

/-- Whether shaping takes a payload away. -/
def isDemoted (compilation : Compilation α) (project : Project) : Bool :=
  compilation.isCompiled && !(compilation.shape project).isCompiled

/-- What is logged when a compilation is shaped. -/
def shapeLog (compilation : Compilation α) (project : Project) : List Log.Record :=
  let diagnostics := compilation.diagnostics.forProject project
  let demoted : List Log.Record :=
    if compilation.isDemoted project then
      [⟨.warning, "compiled_result_demoted", [("errors", .int diagnostics.errors.length),
        ("conf_type", .text project.target.name)]⟩]
    else []
  compilation.diagnostics.forProjectLog project ++ demoted

/-- What takes the place of a compilation when it is shaped; nothing where it stays itself. -/
def replacement? (compilation : Compilation α) (project : Project) :
    Option (Compilation α) :=
  let replaced := compilation.diagnostics.replacement? project
  match compilation with
  | .compiled result diagnostics =>
    let kept := replaced.getD diagnostics
    if kept.hasErrors then some (.notCompiled kept) else replaced.map (.compiled result)
  | .notCompiled _ => replaced.map .notCompiled

end Compilation

end Multitarget
