import Multitarget.Domain.Configuration
import Multitarget.Domain.Project
import Multitarget.Session.Basic

/-!
# Loading projects and configurations

Descriptions are files in YAML, or in JSON where the name of the file says so.
A YAML file without content, or with an empty value, describes what has nothing
but defaults.
-/

namespace Multitarget.Loading

/-- The text of a file with all line ends made line feeds. -/
def readText (path : FilePath) : Action (List Char) := do
  match Text.Utf8.decode (← Action.readFile path) with
  | .ok text => return Text.universalLines text
  | .error failure => throw (.undecodable failure)

/-- The value of a YAML file; an empty value counts as a mapping without entries. -/
def readYaml (path : FilePath) : Action Value := do
  match Yaml.read (Text.Stream.ofBytes (← Action.readFile path)) with
  | .ok value => return if value.isEmpty then .map [] else value
  | .error (.undecodable failure) => throw (.undecodable failure)
  | .error error => throw (.yaml error path.text)

/-- The value of a JSON file. -/
def readJson (path : FilePath) : Action Value := do
  let text ← readText path
  match Json.read text with
  | .ok document => return document.toValue
  | .error failure => throw (.json failure text)

/-- Reads a record from a value. -/
def accept {α : Type} (checked : Schema.Checked α) : Action α :=
  match checked with
  | .valid value => return value
  | .invalid issues => throw (.invalid issues)

/-- Loads a project. -/
def project (path : FilePath) : Action Project := do
  if !(← Action.fileExists path) then throw (.missingFile path.text)
  let value ← if path.suffix = ".json" then readJson path else readYaml path
  accept (Project.check value)

/-- Loads a configuration. What is wrong with the file is reported as a failure that names it; of
several issues the first is told. -/
def configuration (path : FilePath) : Action Configuration := do
  if !(← Action.fileExists path) then
    Action.fail (.configuration "Configuration file not found" (some path.text) none)
  let value ←
    match ← Action.observe (readYaml path) with
    | .ok value => pure value
    | .error (.yaml (.mismatch mismatch mark) file) => throw (.yaml (.mismatch mismatch mark) file)
    | .error (.yaml _ _) =>
      Action.failLogged (.configuration "Invalid YAML" (some path.text) none)
    | .error fault => throw fault
  match Configuration.check value with
  | .valid configuration => return configuration
  | .invalid [] => throw (.invalid [])
  | .invalid (issue :: _) =>
    Action.failLogged (.configuration ("Invalid configuration: " ++ issue.problem.message)
      (some path.text) (some issue.path))

/-- The name of a configuration file. -/
def configurationName : String := "kompile.yaml"

/-- The name of the variable that leads to a configuration file. -/
def configurationVariable : String := "KOMPILE_CONFIG"

/-- The directories that are searched for a configuration file. -/
def searchDirectories : List FilePath := [⟨"", []⟩, ⟨"", [".kompile"]⟩]

/-- The first directory that has a configuration file. -/
def searchConfiguration : List FilePath → Action (Option FilePath)
  | [] => return none
  | directory :: rest => do
    let candidate := directory.append ⟨"", [configurationName]⟩
    if ← Action.fileExists candidate then
      Action.log .debug "config_found" [("path", .text candidate.text)]
      return some candidate
    searchConfiguration rest

/-- Finds a configuration file: the one that the variable leads to, or else by search. -/
def findConfiguration (setting : Option String) (directories : List FilePath) :
    Action (Option FilePath) :=
  match setting.filter (· ≠ "") with
  | some explicit => return some (FilePath.ofText explicit)
  | none => searchConfiguration (if directories.isEmpty then searchDirectories else directories)

/-- Loads the configuration of a path, or else the one that is found. -/
def configurationOf (setting path : Option String) : Action Configuration := do
  let found ←
    match path with
    | some path => pure (some (FilePath.ofText path))
    | none => findConfiguration setting []
  match found with
  | some path => configuration path
  | none =>
    Action.fail (.configuration ("No " ++ configurationName ++ " found. Set "
      ++ configurationVariable ++ " or pass --config.") none none)

end Multitarget.Loading
