import Multitarget.Proofs.Domain.RoundTrip
import Multitarget.Proofs.Schema.Issues
import Multitarget.Proofs.Session.Loading

/-!
# Which configuration is loaded

A configuration is loaded from the file that is named, or else from the one that a setting leads to,
or else from the first that a search comes upon. What it is loaded as is decided by what the path of
that file leads to; the session stays, but for what is noted in the log.
-/

namespace Multitarget

/-! ## Paths that are not too long -/

namespace FileTree

variable {tree : FileTree} {working : Location} {path : FilePath}

end FileTree

namespace Loading

open Action

/-! ## Searching -/

/-- Where the configuration file of a directory would be. -/
def candidate (directory : FilePath) : FilePath :=
  directory.append ⟨"", [configurationName]⟩

/-- The file that a configuration is loaded from: the one that is named, or else the one that the
setting leads to, or else the first that a search comes upon. -/
def configurationPath (setting path : Option String) (session : Session) : Option FilePath :=
  match path with
  | some path => some (FilePath.ofText path)
  | none =>
      match setting.filter (· ≠ "") with
      | some setting => some (FilePath.ofText setting)
      | none =>
          (searchDirectories.map candidate).find? fun file => session.lookUp file ≠ .nothing

/-- What the bytes of a configuration file are loaded as. -/
def configurationFrom (path : FilePath) (content : Text.Bytes) : Except Fault Configuration :=
  match yamlValue path.text content with
  | .error (.yaml (.mismatch mismatch mark) file) => .error (.yaml (.mismatch mismatch mark) file)
  | .error (.yaml _ _) => .error (.failure (.configuration "Invalid YAML" (some path.text) none))
  | .error fault => .error fault
  | .ok value =>
    match Configuration.check value with
    | .valid configuration => .ok configuration
    | .invalid [] => .error (.invalid [])
    | .invalid (issue :: _) =>
      .error (.failure (.configuration ("Invalid configuration: " ++ issue.problem.message)
        (some path.text) (some issue.path)))

/-- What a configuration is loaded as, by what its path leads to. -/
def configurationAt (path : FilePath) : Finding → Except Fault Configuration
  | .nothing => .error (.failure (.configuration "Configuration file not found"
      (some path.text) none))
  | .tooLong => .error (.file (.obstacle .nameTooLong path.text))
  | .directory => .error (.file (.obstacle .isDirectory path.text))
  | .content content => configurationFrom path content

/-- The failure where there is no configuration file. -/
def unfound : Failure :=
  .configuration ("No " ++ configurationName ++ " found. Set " ++ configurationVariable ++
    " or pass --config.") none none

/-- What the configuration of a session is loaded as. -/
def configurationIn (setting path : Option String) (session : Session) :
    Except Fault Configuration :=
  match configurationPath setting path session with
  | some file => configurationAt file (session.lookUp file)
  | none => .error (.failure unfound)

end Loading

/-! ## Faults -/

open Loading

variable {path : FilePath} {found : Finding}

/-- The failures of loading a configuration, by what its path leads to. -/
inductive Failure.OfConfiguration (path : FilePath) : Finding → Failure → Prop where
  | missing : OfConfiguration path .nothing
      (.configuration "Configuration file not found" (some path.text) none)
  | noYaml {content : Text.Bytes} {error : Yaml.Error}
      (unread : yamlValue path.text content = .error (.yaml error path.text))
      (syntactic : ∀ mismatch mark, error ≠ .mismatch mismatch mark) :
      OfConfiguration path (.content content)
        (.configuration "Invalid YAML" (some path.text) none)
  | noConfiguration {content : Text.Bytes} {value : Value} {issue : Schema.Issue}
      {rest : List Schema.Issue} (read : yamlValue path.text content = .ok value)
      (unfit : Configuration.check value = .invalid (issue :: rest)) :
      OfConfiguration path (.content content)
        (.configuration ("Invalid configuration: " ++ issue.problem.message) (some path.text)
          (some issue.path))

/-- The faults of loading a configuration that are no failures, by what its path leads to. -/
inductive Fault.OfConfiguration (path : FilePath) : Finding → Fault → Prop where
  | ofPath {found : Finding} {fault : Fault} (ofPath : OfPath path found fault) :
      OfConfiguration path found fault
  | ofYaml {content : Text.Bytes} {fault : Fault} (ofYaml : OfYaml path.text content fault) :
      OfConfiguration path (.content content) fault

theorem Fault.OfConfiguration.failure?_eq {fault : Fault}
    (ofConfiguration : fault.OfConfiguration path found) : fault.failure? = none := by
  cases ofConfiguration with
  | ofPath ofPath => cases ofPath <;> rfl
  | ofYaml ofYaml => cases ofYaml <;> rfl

namespace Loading

theorem configurationAt_of_failure {failure : Failure}
    (ofConfiguration : failure.OfConfiguration path found) :
    configurationAt path found = .error (.failure failure) := by
  cases ofConfiguration with
  | missing => rfl
  | @noYaml content error unread syntactic =>
      rw [configurationAt, configurationFrom, unread]
      cases error with
      | mismatch mismatch mark => exact absurd rfl (syntactic mismatch mark)
      | _ => rfl
  | noConfiguration read unfit => simp only [configurationAt, configurationFrom, read, unfit]

theorem configurationAt_of_fault {fault : Fault}
    (ofConfiguration : fault.OfConfiguration path found) :
    configurationAt path found = .error fault := by
  cases ofConfiguration with
  | ofPath ofPath => cases ofPath <;> rfl
  | ofYaml ofYaml =>
      rw [configurationAt, configurationFrom, ofYaml.yamlValue_eq]
      cases ofYaml <;> rfl

/-- A configuration that was loaded passes its check. -/
theorem isSound_of_configurationAt {configuration : Configuration}
    (loaded : configurationAt path found = .ok configuration) : configuration.IsSound := by
  cases found with
  | content content =>
      rw [configurationAt, configurationFrom] at loaded
      split at loaded
      · cases loaded
      · cases loaded
      · cases loaded
      · split at loaded
        next checked =>
          obtain rfl := Except.ok.inj loaded
          exact Configuration.isSound_of_check checked
        · cases loaded
        · cases loaded
  | _ => cases loaded

theorem isSound_of_configurationIn {setting named : Option String} {session : Session}
    {configuration : Configuration}
    (loaded : configurationIn setting named session = .ok configuration) :
    configuration.IsSound := by
  rw [configurationIn] at loaded
  split at loaded
  · exact isSound_of_configurationAt loaded
  · cases loaded

end Loading

end Multitarget
