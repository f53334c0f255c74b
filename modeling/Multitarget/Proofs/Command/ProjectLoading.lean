import Multitarget.Proofs.Command.Loading
import Multitarget.Proofs.Domain.RoundTrip
import Multitarget.Proofs.Session.Loading
import Multitarget.Proofs.Text.Utf8

/-!
# How loading a project ends

Loading a project ends with a project that passes its check, or it is refused: because there is no
file, because the file is no YAML or JSON, or because it describes no project. But not all that can
go wrong with a file is explained so. A path that is too long or leads to a directory, bytes that
are no text, a scalar that does not fit its tag and a numeral that is too long end the loading with
a fault that is passed on.
-/

namespace Multitarget

open Loading

variable {path : String} {session : Session} {found : Finding} {project : Project}
  {refusal : Refusal} {fault : Fault} {content : Text.Bytes} {α : Type}

/-- The refusals to load a project, by what its path leads to. -/
inductive Refusal.Announced (path : String) : Finding → Refusal → Prop where
  | missing : Announced path .nothing (.missingProject path)
  | noYaml {content : Text.Bytes} {error : Yaml.Error} {file : String}
      (unread : projectValue (.ofText path) content = .error (.yaml error file)) :
      Announced path (.content content)
        ⟨"Invalid YAML in " ++ path ++ ": " ++ error.message file, Refusal.userError⟩
  | noJson {content : Text.Bytes} {failure : Json.Failure} {text : List Char}
      (unread : projectValue (.ofText path) content = .error (.json failure text)) :
      Announced path (.content content)
        ⟨"Invalid JSON in " ++ path ++ ": " ++ failure.message text, Refusal.userError⟩
  | noProject {content : Text.Bytes} {value : Value} {issues : List Schema.Issue}
      (read : projectValue (.ofText path) content = .ok value)
      (unfit : Project.check value = .invalid issues) :
      Announced path (.content content)
        ⟨"Invalid project in " ++ path ++ ":\n" ++ Schema.report issues, Refusal.userError⟩

/-- The faults of loading a project that nothing explains, by what its path leads to. -/
inductive Fault.Unannounced (path : FilePath) : Finding → Fault → Prop where
  | ofPath {found : Finding} {fault : Fault} (ofPath : OfPath path found fault) :
      Unannounced path found fault
  | ofJson {content : Text.Bytes} {fault : Fault} (isJson : path.suffix = ".json")
      (ofJson : OfJson content fault) : Unannounced path (.content content) fault
  | ofYaml {content : Text.Bytes} {fault : Fault} (isYaml : path.suffix ≠ ".json")
      (ofYaml : OfYaml path.text content fault) : Unannounced path (.content content) fault

namespace Operation

open Attempt

/-- Loading a project leaves the session, and comes to what the content of the file is loaded as
where its faults are explained. -/
theorem loadProject_run (path : String) (session : Session) :
    loadProject path session =
      (match session.lookUp (.ofText path) with
        | .nothing => .ok (.error (.missingProject path))
        | .tooLong => .error (.file (.obstacle .nameTooLong (FilePath.ofText path).text))
        | .directory => .error (.file (.obstacle .isDirectory (FilePath.ofText path).text))
        | .content content => explained (Refusal.ofProject path)
            (projectOf (.ofText path) content), session) := by
  have looked := Action.fileExists_run (.ofText path) session
  have loaded := explaining_run (Refusal.ofProject path) (Loading.project (.ofText path)) session
  rw [project_run] at loaded
  cases found : session.lookUp (.ofText path) with
  | nothing =>
      rw [found] at looked
      rw [loadProject, Attempt.bind_of_ok (lift_of_ok looked)]
      rfl
  | tooLong =>
      rw [found] at looked
      rw [loadProject, bind_of_fault (lift_of_error looked)]
  | directory =>
      rw [found] at looked loaded
      rw [loadProject, Attempt.bind_of_ok (lift_of_ok looked)]
      exact loaded
  | content content =>
      rw [found] at looked loaded
      rw [loadProject, Attempt.bind_of_ok (lift_of_ok looked)]
      exact loaded

/-- What the bytes of a project file fail to be read as is refused, or passed on. -/
theorem explained_of_projectValue (unread : projectValue (.ofText path) content = .error fault) :
    (∃ refusal, Refusal.ofProject path fault = some refusal ∧
      refusal.Announced path (.content content)) ∨
    Refusal.ofProject path fault = none ∧ fault.Unannounced (.ofText path) (.content content) := by
  have reading := unread
  rw [projectValue] at reading
  split at reading
  next isJson =>
    rcases of_jsonValue reading with ofJson | ⟨failure, text, rfl, noNumeral⟩
    · exact .inr ⟨by cases ofJson <;> rfl, .ofJson isJson ofJson⟩
    · cases failure with
      | longNumeral digits => exact absurd rfl (noNumeral digits)
      | _ => exact .inl ⟨_, rfl, .noJson unread⟩
  next isYaml =>
    rcases of_yamlValue reading with ofYaml | ⟨error, rfl, noMismatch⟩
    · exact .inr ⟨by cases ofYaml <;> rfl, .ofYaml isYaml ofYaml⟩
    · cases error with
      | mismatch mismatch mark => exact absurd rfl (noMismatch mismatch mark)
      | _ => exact .inl ⟨_, rfl, .noYaml unread⟩

/-- A fault that is not announced ends the loading. -/
theorem loadProject_of_unannounced
    (unannounced : fault.Unannounced (.ofText path) (session.lookUp (.ofText path))) :
    (loadProject path session).1 = .error fault := by
  rw [loadProject_run]
  generalize session.lookUp (.ofText path) = found at unannounced
  cases unannounced with
  | ofPath ofPath => cases ofPath <;> rfl
  | ofJson isJson ofJson =>
      have unread : projectValue (.ofText path) _ = .error fault :=
        (if_pos isJson).trans ofJson.jsonValue_eq
      simp only
      exact explained_eq_error_iff.mpr ⟨projectOf_of_error unread, by cases ofJson <;> rfl⟩
  | ofYaml isYaml ofYaml =>
      have unread : projectValue (.ofText path) _ = .error fault :=
        (if_neg isYaml).trans ofYaml.yamlValue_eq
      simp only
      exact explained_eq_error_iff.mpr ⟨projectOf_of_error unread, by cases ofYaml <;> rfl⟩

/-- Loading a project ends with what a file describes, is refused as announced, or ends with a fault
that is not. -/
theorem loadProject_cases (path : String) (session : Session) :
    match (loadProject path session).1 with
    | .ok (.ok project) => ∃ content value, session.lookUp (.ofText path) = .content content ∧
        projectValue (.ofText path) content = .ok value ∧ Project.check value = .valid project
    | .ok (.error refusal) => refusal.Announced path (session.lookUp (.ofText path))
    | .error fault => fault.Unannounced (.ofText path) (session.lookUp (.ofText path)) := by
  rw [loadProject_run]
  cases session.lookUp (.ofText path) with
  | nothing => exact .missing
  | tooLong => exact .ofPath .tooLong
  | directory => exact .ofPath .directory
  | content content =>
      simp only
      generalize ended : explained (Refusal.ofProject path) (projectOf (.ofText path) content) =
        ending
      cases read : projectValue (.ofText path) content with
      | error fault =>
          have unread := projectOf_of_error read
          rcases explained_of_projectValue read with ⟨refusal, refused, announced⟩ |
            ⟨unexplained, unannounced⟩
          · rw [explained_eq_refused_iff.mpr ⟨_, unread, refused⟩] at ended
            subst ended
            exact announced
          · rw [explained_eq_error_iff.mpr ⟨unread, unexplained⟩] at ended
            subst ended
            exact unannounced
      | ok value =>
          have came := projectOf_of_ok read
          cases checked : Project.check value with
          | valid project =>
              rw [came, checked] at ended
              subst ended
              exact ⟨content, value, rfl, read, checked⟩
          | invalid issues =>
              rw [checked] at came
              rw [explained_eq_refused_iff.mpr ⟨_, came, rfl⟩] at ended
              subst ended
              exact .noProject read checked

/-- Loading a project leaves the session as it is. It ends with a project that passes its check, and
that a file describes; or it is refused in one of the announced ways; or it ends with a fault that
nothing explains, exactly where the path is too long or leads to a directory, or where the file is
no text, or holds a scalar that does not fit its tag or a numeral that is too long. A JSON file is
no text exactly if it is the UTF-8 encoding of none. -/
theorem loadProject_told (path : String) (session : Session) :
    (loadProject path session).2 = session ∧
    (match (loadProject path session).1 with
      | .ok (.ok project) => Project.check project.toDocument.toValue = .valid project ∧
          ∃ content value, session.lookUp (.ofText path) = .content content ∧
            projectValue (.ofText path) content = .ok value ∧ Project.check value = .valid project
      | .ok (.error refusal) => refusal.Announced path (session.lookUp (.ofText path))
      | .error fault => fault.Unannounced (.ofText path) (session.lookUp (.ofText path))) ∧
    (∀ fault, fault.Unannounced (.ofText path) (session.lookUp (.ofText path)) →
      (loadProject path session).1 = .error fault) ∧
    ∀ content, session.lookUp (.ofText path) = .content content →
      (FilePath.ofText path).suffix = ".json" →
        ((∃ failure, (loadProject path session).1 = .error (.undecodable failure)) ↔
          ∀ text, Text.Utf8.encodeChars text ≠ content) := by
  have cases := loadProject_cases path session
  refine ⟨by rw [loadProject_run], ?_, fun fault => loadProject_of_unannounced, ?_⟩
  · split at cases
    next project _ =>
      obtain ⟨content, value, found, read, checked⟩ := cases
      exact ⟨Project.check_toDocument (Project.isNamed_of_check checked),
        content, value, found, read, checked⟩
    next => exact cases
    next => exact cases
  · intro content found isJson
    rw [← Text.Utf8.exists_malformed_iff]
    constructor
    · rintro ⟨failure, ended⟩
      rw [ended, found] at cases
      cases cases with
      | ofPath ofPath => cases ofPath
      | ofYaml isYaml ofYaml => exact absurd isJson isYaml
      | ofJson isJson ofJson =>
          cases ofJson with
          | noText malformed => exact ⟨failure, malformed⟩
    · rintro ⟨failure, malformed⟩
      refine ⟨failure, loadProject_of_unannounced ?_⟩
      rw [found]
      exact .ofJson isJson (.noText malformed)

end Operation

/-! ## Faults that nothing explains -/

namespace Session

/-- A JSON text with a byte that is no UTF-8. -/
def latinJson : Text.Bytes := [0x22, 0xE9, 0x22]

/-- A YAML text with a byte that is no UTF-8. -/
def latinYaml : Text.Bytes := [0x61, 0x3A, 0x20, 0xE9, 0x0A]

/-- A YAML text with a date of no calendar. -/
def noDate : Text.Bytes := Text.Utf8.encode "args: 2024-13-45"

/-- A session with files of these texts, and with a directory. -/
def foreign : Session :=
  let files := [("latin.json", latinJson), ("latin.yaml", latinYaml), ("date.yaml", noDate)]
  { fresh with
    files := files.foldl (fun tree entry => tree.put [entry.1] (.file entry.2))
      (fresh.files.put ["folder"] .directory) }

theorem latinJson_ofJson :
    OfJson latinJson (.undecodable ⟨1, 0xE9, 1, .invalidContinuation⟩) :=
  .noText (of_failsWith (by decide +kernel))

theorem latinYaml_ofYaml (file : String) :
    OfYaml file latinYaml (.undecodable ⟨3, 0xE9, 1, .invalidContinuation⟩) :=
  .noText (of_failsWith (by decide +kernel))

theorem noDate_ofYaml (file : String) :
    OfYaml file noDate (.yaml (.mismatch (.calendar .month) ⟨6, 0, 6⟩) file) :=
  .mismatch (of_failsWith (by decide +kernel))

end Session

/-- None of these files can be loaded as a project, nor can the directory, and nothing explains
that. -/
theorem Operation.loadProject_told_foreign :
    (∃ failure, (loadProject "latin.json" .foreign).1 = .error (.undecodable failure)) ∧
    (∃ failure, (loadProject "latin.yaml" .foreign).1 = .error (.undecodable failure)) ∧
    (∃ mismatch mark,
      (loadProject "date.yaml" .foreign).1 = .error (.yaml (.mismatch mismatch mark) "date.yaml")) ∧
    (loadProject "folder" .foreign).1 = .error (.file (.obstacle .isDirectory "folder")) := by
  have ends (file : String) (found : Finding)
      (seen : Session.foreign.lookUp (.ofText file) = found) {fault : Fault}
      (unannounced : fault.Unannounced (.ofText file) found) :
      (loadProject file .foreign).1 = .error fault := by
    apply (loadProject_told file .foreign).2.2.1
    rw [seen]
    exact unannounced
  have latinJson := ends "latin.json" (.content Session.latinJson) (by decide +kernel)
    (.ofJson (by decide +kernel) Session.latinJson_ofJson)
  have latinYaml := ends "latin.yaml" (.content Session.latinYaml) (by decide +kernel)
    (.ofYaml (by decide +kernel) (Session.latinYaml_ofYaml _))
  have noDate := ends "date.yaml" (.content Session.noDate) (by decide +kernel)
    (.ofYaml (by decide +kernel) (Session.noDate_ofYaml _))
  have folder := ends "folder" .directory (by decide +kernel) (.ofPath .directory)
  exact ⟨⟨_, latinJson⟩, ⟨_, latinYaml⟩, ⟨_, _, noDate⟩, folder⟩

end Multitarget
