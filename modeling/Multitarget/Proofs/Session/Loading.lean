import Multitarget.Proofs.Session.Action
import Multitarget.Session.Loading

/-!
# What loading comes to

Reading a file leaves a session as it is, and what comes of it is decided by what the path leads to.
So a project is loaded from the bytes of a file alone.
-/

namespace Multitarget

/-! ## What a path leads to -/

/-- What a path leads to that is to be read. -/
inductive Finding where
  | nothing
  | directory
  | content (bytes : Text.Bytes)
  /-- The path, or a name on it, is too long. -/
  | tooLong
  deriving DecidableEq

/-- The finding that an entry is. -/
def Finding.ofNode : FileNode → Finding
  | .directory => .directory
  | .file bytes => .content bytes

namespace FileTree

variable {tree : FileTree} {working : Location} {path : FilePath} {content : Text.Bytes}

/-- What a path leads to, seen from a working directory. -/
def lookUp (tree : FileTree) (working : Location) (path : FilePath) : Finding :=
  if path.hasNull then .nothing
  else
    match tree.resolve working path with
    | .present _ .directory => .directory
    | .present _ (.file content) => .content content
    | .blocked .nameTooLong => .tooLong
    | _ => .nothing

theorem exists_run (working : Location) (path : FilePath) (tree : FileTree) :
    tree.exists working path =
      match tree.lookUp working path with
      | .nothing => (.ok false, tree)
      | .tooLong => (.error (.obstacle .nameTooLong path.text), tree)
      | _ => (.ok true, tree) := by
  unfold «exists» lookUp
  by_cases null : path.hasNull = true
  · rw [if_pos null, if_pos null]
    rfl
  · rw [if_neg null, if_neg null, bind_of_ok (get_run tree)]
    cases tree.resolve working path with
    | present location node => cases node <;> rfl
    | absent location => rfl
    | blocked obstacle => cases obstacle <;> rfl

/-- An entry that a path leads to is what its lookup comes upon. -/
theorem resolve_of_lookUp {node : FileNode} (found : tree.lookUp working path = .ofNode node) :
    path.hasNull = false ∧ ∃ place, tree.resolve working path = .present place node := by
  rw [lookUp] at found
  cases named : path.hasNull with
  | true => cases node <;> simp [named, Finding.ofNode] at found
  | false =>
      refine ⟨rfl, ?_⟩
      rw [named] at found
      cases resolved : tree.resolve working path with
      | present place other => cases other <;> cases node <;> simp_all [Finding.ofNode]
      | absent place => cases node <;> simp [resolved, Finding.ofNode] at found
      | blocked obstacle => cases obstacle <;> cases node <;> simp_all [Finding.ofNode]

theorem readFile_of_content (found : tree.lookUp working path = .content content) :
    readFile working path tree = (.ok content, tree) := by
  obtain ⟨named, place, resolved⟩ := @resolve_of_lookUp _ _ _ (.file content) found
  simp [readFile, named, bind_run, resolved]

theorem readFile_of_directory (found : tree.lookUp working path = .directory) :
    readFile working path tree = (.error (.obstacle .isDirectory path.text), tree) := by
  obtain ⟨named, place, resolved⟩ := @resolve_of_lookUp _ _ _ .directory found
  simp [readFile, named, bind_run, resolved, block]

end FileTree

/-- What a path leads to in a session. -/
def Session.lookUp (session : Session) (path : FilePath) : Finding :=
  session.files.lookUp session.working path

namespace Action

variable {path : FilePath} {session : Session} {content : Text.Bytes}

theorem fileExists_run (path : FilePath) (session : Session) :
    fileExists path session =
      match session.lookUp path with
      | .nothing => (.ok false, session)
      | .tooLong => (.error (.file (.obstacle .nameTooLong path.text)), session)
      | _ => (.ok true, session) := by
  rw [fileExists, onFiles_run, FileTree.exists_run, Session.lookUp]
  cases session.files.lookUp session.working path <;> rfl

theorem readFile_of_content (found : session.lookUp path = .content content) :
    readFile path session = (.ok content, session) := by
  rw [readFile, onFiles_run, FileTree.readFile_of_content found]
  rfl

theorem readFile_of_directory (found : session.lookUp path = .directory) :
    readFile path session = (.error (.file (.obstacle .isDirectory path.text)), session) := by
  rw [readFile, onFiles_run, FileTree.readFile_of_directory found]
  rfl

end Action

namespace Loading

open Action

variable {path : FilePath} {session : Session} {content : Text.Bytes}

/-! ## Values -/

/-- What the bytes of a YAML file are read as; the file is named in faults. -/
def yamlValue (file : String) (content : Text.Bytes) : Except Fault Value :=
  match Yaml.read (.ofBytes content) with
  | .ok value => .ok (if value.isEmpty then .map [] else value)
  | .error (.undecodable failure) => .error (.undecodable failure)
  | .error error => .error (.yaml error file)

/-- What the bytes of a JSON file are read as. -/
def jsonValue (content : Text.Bytes) : Except Fault Value :=
  match Text.Utf8.decode content with
  | .error failure => .error (.undecodable failure)
  | .ok text =>
    match Json.read (Text.universalLines text) with
    | .ok document => .ok document.toValue
    | .error failure => .error (.json failure (Text.universalLines text))

theorem readYaml_of_content (found : session.lookUp path = .content content) :
    readYaml path session = (yamlValue path.text content, session) := by
  rw [readYaml, bind_of_ok (readFile_of_content found), yamlValue]
  cases Yaml.read (.ofBytes content) with
  | ok value => rfl
  | error error => cases error <;> rfl

theorem readYaml_of_directory (found : session.lookUp path = .directory) :
    readYaml path session = (.error (.file (.obstacle .isDirectory path.text)), session) := by
  rw [readYaml, bind_of_error (readFile_of_directory found)]

theorem readJson_of_content (found : session.lookUp path = .content content) :
    readJson path session = (jsonValue content, session) := by
  have text : readText path session =
      ((Text.Utf8.decode content).map Text.universalLines |>.mapError .undecodable, session) := by
    rw [readText, bind_of_ok (readFile_of_content found)]
    cases Text.Utf8.decode content <;> rfl
  rw [readJson, bind_run, text, jsonValue]
  cases Text.Utf8.decode content with
  | error failure => rfl
  | ok text =>
      simp only [Except.map, mapError_ok]
      cases Json.read (Text.universalLines text) <;> rfl

theorem readJson_of_directory (found : session.lookUp path = .directory) :
    readJson path session = (.error (.file (.obstacle .isDirectory path.text)), session) := by
  have text : readText path session =
      (.error (.file (.obstacle .isDirectory path.text)), session) := by
    rw [readText, bind_of_error (readFile_of_directory found)]
  rw [readJson, bind_of_error text]

/-! ## Faults of files -/

/-- The faults of a path that leads to no file, but not to nothing. -/
inductive OfPath (path : FilePath) : Finding → Fault → Prop where
  | tooLong : OfPath path .tooLong (.file (.obstacle .nameTooLong path.text))
  | directory : OfPath path .directory (.file (.obstacle .isDirectory path.text))

/-- The faults of a YAML file that are not faults of its syntax: it is no text, or has a scalar that
does not fit its tag. -/
inductive OfYaml (file : String) (content : Text.Bytes) : Fault → Prop where
  | noText {failure : Text.Utf8.Malformed}
      (unread : Yaml.read (.ofBytes content) = .error (.undecodable failure)) :
      OfYaml file content (.undecodable failure)
  | mismatch {mismatch : Yaml.Mismatch} {mark : Yaml.Mark}
      (unread : Yaml.read (.ofBytes content) = .error (.mismatch mismatch mark)) :
      OfYaml file content (.yaml (.mismatch mismatch mark) file)

/-- The faults of a JSON file that are not faults of its syntax: it is no text, or has a numeral
that is too long. -/
inductive OfJson (content : Text.Bytes) : Fault → Prop where
  | noText {failure : Text.Utf8.Malformed}
      (malformed : Text.Utf8.decode content = .error failure) :
      OfJson content (.undecodable failure)
  | longNumeral {text : List Char} {digits : Nat} (decoded : Text.Utf8.decode content = .ok text)
      (unread : Json.read (Text.universalLines text) = .error (.longNumeral digits)) :
      OfJson content (.json (.longNumeral digits) (Text.universalLines text))

section Faults

variable {file : String} {fault : Fault}

/-- A YAML file that is not read has a fault of its syntax, or one of the others. -/
theorem of_yamlValue (unread : yamlValue file content = .error fault) :
    OfYaml file content fault ∨
      ∃ error, fault = .yaml error file ∧ ∀ mismatch mark, error ≠ .mismatch mismatch mark := by
  rw [yamlValue] at unread
  cases read : Yaml.read (.ofBytes content) with
  | ok value =>
      rw [read] at unread
      cases unread
  | error error =>
      rw [read] at unread
      cases error with
      | undecodable failure =>
          obtain rfl := Except.error.inj unread
          exact .inl (.noText read)
      | mismatch mismatch mark =>
          obtain rfl := Except.error.inj unread
          exact .inl (.mismatch read)
      | _ => exact .inr ⟨_, (Except.error.inj unread).symm, nofun⟩

theorem OfYaml.yamlValue_eq (ofYaml : OfYaml file content fault) :
    yamlValue file content = .error fault := by
  cases ofYaml with
  | noText unread => rw [yamlValue, unread]
  | mismatch unread => rw [yamlValue, unread]

/-- A JSON file that is not read has a fault of its syntax, or one of the others. -/
theorem of_jsonValue (unread : jsonValue content = .error fault) :
    OfJson content fault ∨
      ∃ failure text, fault = .json failure text ∧ ∀ digits, failure ≠ .longNumeral digits := by
  rw [jsonValue] at unread
  cases decoded : Text.Utf8.decode content with
  | error failure =>
      rw [decoded] at unread
      obtain rfl := Except.error.inj unread
      exact .inl (.noText decoded)
  | ok text =>
      simp only [decoded] at unread
      cases read : Json.read (Text.universalLines text) with
      | ok document =>
          rw [read] at unread
          cases unread
      | error failure =>
          rw [read] at unread
          obtain rfl := Except.error.inj unread
          cases failure with
          | longNumeral digits => exact .inl (.longNumeral decoded read)
          | _ => exact .inr ⟨_, _, rfl, nofun⟩

theorem OfJson.jsonValue_eq (ofJson : OfJson content fault) :
    jsonValue content = .error fault := by
  cases ofJson with
  | noText malformed => rw [jsonValue, malformed]
  | longNumeral decoded unread => simp only [jsonValue, decoded, unread]

end Faults

/-! ## Projects -/

/-- What a record that was checked is accepted as. -/
def accepted {α : Type} : Schema.Checked α → Except Fault α
  | .valid value => .ok value
  | .invalid issues => .error (.invalid issues)

theorem accept_run {α : Type} (checked : Schema.Checked α) (session : Session) :
    accept checked session = (accepted checked, session) := by
  cases checked <;> rfl

/-- What the bytes of a project file are read as. -/
def projectValue (path : FilePath) (content : Text.Bytes) : Except Fault Value :=
  if path.suffix = ".json" then jsonValue content else yamlValue path.text content

/-- What a project file with some content is loaded as. -/
def projectOf (path : FilePath) (content : Text.Bytes) : Except Fault Project := do
  accepted (Project.check (← projectValue path content))

theorem projectOf_of_ok {value : Value} (read : projectValue path content = .ok value) :
    projectOf path content = accepted (Project.check value) := by
  rw [projectOf, read]
  rfl

theorem projectOf_of_error {fault : Fault} (unread : projectValue path content = .error fault) :
    projectOf path content = .error fault := by
  rw [projectOf, unread]
  rfl

/-- Loading a project leaves the session, and comes to what the content of the file is loaded as. -/
theorem project_run (path : FilePath) (session : Session) :
    project path session =
      (match session.lookUp path with
        | .nothing => .error (.missingFile path.text)
        | .tooLong => .error (.file (.obstacle .nameTooLong path.text))
        | .directory => .error (.file (.obstacle .isDirectory path.text))
        | .content content => projectOf path content, session) := by
  have looked := fileExists_run path session
  cases found : session.lookUp path with
  | nothing =>
      rw [found] at looked
      rw [project, bind_of_ok looked]
      exact bind_of_error (throw_run _ session)
  | tooLong =>
      rw [found] at looked
      rw [project, bind_of_error looked]
  | directory =>
      rw [found] at looked
      rw [project, bind_of_ok looked]
      simp only [Bool.not_true, Bool.false_eq_true, if_false]
      split
      · exact bind_of_error (readJson_of_directory found)
      · exact bind_of_error (readYaml_of_directory found)
  | content content =>
      rw [found] at looked
      rw [project, bind_of_ok looked]
      simp only [projectOf, projectValue, Bool.not_true, Bool.false_eq_true, if_false]
      split
      · rw [bind_run, readJson_of_content found]
        cases jsonValue content with
        | error fault => rfl
        | ok value => exact accept_run (Project.check value) session
      · rw [bind_run, readYaml_of_content found]
        cases yamlValue path.text content with
        | error fault => rfl
        | ok value => exact accept_run (Project.check value) session

end Loading

end Multitarget
