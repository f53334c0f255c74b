import Multitarget.Domain.Target
import Multitarget.Json.Document
import Multitarget.Schema.Record
import Multitarget.Text.Quoted

/-!
# Projects

A project is a list of named source files with the target to compile them for.
No two files share a name; a description that repeats one is refused.
-/

namespace Multitarget

open Schema (Checked Field)
open Json (Document)

/-- A named source file. -/
structure ProjectFile where
  name : String
  text : String
  deriving DecidableEq, Repr

namespace ProjectFile

/-- Reads a file: it has a name, its text may be left out. -/
def check : Value → Checked ProjectFile :=
  Schema.record "ProjectFile" [.simple "name", .simple "text"] fun entries =>
    ProjectFile.mk
      <$> Schema.required entries (.simple "name") Schema.fullText
      <*> Schema.defaulted entries (.simple "text") "" Schema.text

/-- The wire form of a file. -/
def toDocument (file : ProjectFile) : Document :=
  .object [("name", .text file.name), ("text", .text file.text)]

/-- The first name that a list of files repeats, given the names before it. -/
def repeatedName (seen : List String) : List ProjectFile → Option String
  | [] => none
  | file :: rest =>
    if file.name ∈ seen then some file.name else repeatedName (file.name :: seen) rest

theorem repeatedName_eq_none (seen : List String) (files : List ProjectFile) :
    repeatedName seen files = none ↔
      (files.map name).Nodup ∧ ∀ file ∈ files, file.name ∉ seen := by
  induction files generalizing seen with
  | nil => simp [repeatedName]
  | cons file rest ih =>
    simp only [repeatedName]
    split
    · rename_i present
      simp [present]
    · rename_i absent
      rw [ih]
      simp only [List.map_cons, List.nodup_cons, List.mem_map, List.mem_cons]
      constructor
      · rintro ⟨distinct, fresh⟩
        refine ⟨⟨fun ⟨other, inside, same⟩ => fresh other inside (.inl same), distinct⟩, ?_⟩
        rintro other (rfl | inside)
        · exact absent
        · exact fun known => fresh other inside (.inr known)
      · rintro ⟨⟨apart, distinct⟩, fresh⟩
        refine ⟨distinct, fun other inside known => ?_⟩
        rcases known with same | known
        · exact apart ⟨other, inside, same⟩
        · exact fresh other (.inr inside) known

end ProjectFile

/-- A project: files with distinct names, a target, and its options. -/
structure Project where
  arguments : String
  files : List ProjectFile
  target : Target
  addClasspath : Bool
  /-- No two files share a name. -/
  distinct : (files.map ProjectFile.name).Nodup
  deriving DecidableEq, Repr

namespace Project

/-- The names of the files in order. -/
def fileNames (project : Project) : List String :=
  project.files.map ProjectFile.name

/-- The words of the argument text. -/
def argumentWords (project : Project) : List String :=
  Text.words project.arguments

/-- Files that are checked to have distinct names. -/
abbrev DistinctFiles := { files : List ProjectFile // (files.map ProjectFile.name).Nodup }

/-- Reads the files; a repeated name is an issue of the list. -/
def checkFiles (value : Value) : Checked DistinctFiles :=
  (Schema.list ProjectFile.check value).bind fun files =>
    match same : ProjectFile.repeatedName [] files with
    | some name => .fail (.rule ("Duplicate file name: " ++ name))
    | none => .valid ⟨files, ((ProjectFile.repeatedName_eq_none [] files).1 same).1⟩

/-- The targets by name. -/
def targetChoices : List (String × Target) :=
  Target.all.map fun target => (target.name, target)

/-- The fields of a project description. -/
def fields : List Field :=
  [.simple "args", .simple "files", ⟨"confType", "conf_type"⟩, ⟨"addClasspath", "add_classpath"⟩]

/-- Reads a project description; every field may be left out. -/
def check : Value → Checked Project :=
  Schema.record "Project" fields fun entries =>
    (fun arguments (files : DistinctFiles) target addClasspath =>
        Project.mk arguments files.1 target addClasspath files.2)
      <$> Schema.defaulted entries (.simple "args") "" Schema.text
      <*> Schema.defaulted entries (.simple "files") ⟨[], List.nodup_nil⟩ checkFiles
      <*> Schema.defaulted entries ⟨"confType", "conf_type"⟩ .java (Schema.choice targetChoices)
      <*> Schema.defaulted entries ⟨"addClasspath", "add_classpath"⟩ false Schema.bool

/-- The wire form of a project. -/
def toDocument (project : Project) : Document :=
  .object [
    ("args", .text project.arguments),
    ("files", .array (project.files.map ProjectFile.toDocument)),
    ("confType", .text project.target.name),
    ("addClasspath", .bool project.addClasspath)]

/-- A one-line description: the target, the file names and the arguments, quoted. -/
def describe (project : Project) : String :=
  "Project(conf_type=" ++ project.target.name ++ ", files=["
    ++ ", ".intercalate (project.fileNames.map Text.quoted)
    ++ "], args=" ++ Text.quoted project.arguments ++ ")"

end Project

end Multitarget
