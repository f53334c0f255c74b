import Multitarget.Proofs.Session.Loading
import Multitarget.Proofs.Executor.Verdict

/-!
# Documents that are no projects

A project is described by a mapping. In JSON every other document is refused, and so is every
other document in YAML that is not blank. But a blank one, which has nothing to say for its kind,
is taken in YAML for a description of nothing but defaults, be it no mapping at all.
-/

namespace Multitarget

/-- The values that are empty for their kind. -/
inductive Value.IsBlank : Value → Prop where
  | null : IsBlank .null
  | no : IsBlank (.bool false)
  | zero : IsBlank (.int 0)
  | realZero {number : Binary64} (same : number.toInt? = some 0) : IsBlank (.real number)
  | text : IsBlank (.text "")
  | bytes : IsBlank (.bytes [])
  | list : IsBlank (.list [])
  | tuple : IsBlank (.tuple [])
  | set : IsBlank (.set [])
  | map : IsBlank (.map [])

theorem Value.isEmpty_iff (value : Value) : value.isEmpty = true ↔ value.IsBlank := by
  constructor
  · intro empty
    cases value with
    | null => exact .null
    | bool value =>
        cases value with
        | false => exact .no
        | true => cases empty
    | int value =>
        obtain rfl := eq_of_beq empty
        exact .zero
    | real number => exact .realZero (eq_of_beq empty)
    | text value =>
        obtain rfl := eq_of_beq empty
        exact .text
    | bytes value =>
        obtain rfl := List.isEmpty_iff.mp empty
        exact .bytes
    | list items =>
        obtain rfl := List.isEmpty_iff.mp empty
        exact .list
    | tuple items =>
        obtain rfl := List.isEmpty_iff.mp empty
        exact .tuple
    | set items =>
        obtain rfl := List.isEmpty_iff.mp empty
        exact .set
    | map entries =>
        obtain rfl := List.isEmpty_iff.mp empty
        exact .map
    | date | moment => cases empty
  · intro blank
    cases blank with
    | realZero same => simp [isEmpty, same]
    | _ => rfl

namespace Project

/-- A project of which nothing is stated. -/
def unstated : Project where
  arguments := ""
  files := []
  target := .java
  addClasspath := false
  distinct := List.nodup_nil

/-- A mapping without entries describes it. -/
theorem check_map_nil : check (.map []) = .valid unstated := rfl

/-- The issue of a document that is no mapping. -/
def noMapping : Schema.Issue := ⟨[], .recordType "Project"⟩

theorem check_of_not_map {value : Value} (other : ∀ entries, value ≠ .map entries) :
    check value = .invalid [noMapping] := by
  cases value with
  | map entries => exact absurd rfl (other entries)
  | _ => rfl

theorem check_eq_valid_iff {value : Value} {project : Project} :
    check value = .valid project ↔
      ∃ entries, value = .map entries ∧ check (.map entries) = .valid project := by
  constructor
  · intro valid
    cases value with
    | map entries => exact ⟨entries, rfl, valid⟩
    | _ => cases valid
  · rintro ⟨entries, rfl, valid⟩
    exact valid

end Project

namespace Loading

variable {path : FilePath} {session : Session} {content : Text.Bytes} {value : Value}

/-- The document that the bytes of a project file are parsed as. -/
inductive Parses (path : FilePath) (content : Text.Bytes) : Value → Prop where
  | json {text : List Char} {document : Json.Document} (isJson : path.suffix = ".json")
      (decoded : Text.Utf8.decode content = .ok text)
      (read : Json.read (Text.universalLines text) = .ok document) :
      Parses path content document.toValue
  | yaml {value : Value} (isYaml : path.suffix ≠ ".json")
      (read : Yaml.read (.ofBytes content) = .ok value) : Parses path content value

theorem accepted_eq_ok_iff {α : Type} {checked : Schema.Checked α} {loaded : α} :
    accepted checked = .ok loaded ↔ checked = .valid loaded := by
  cases checked <;> simp [accepted]

theorem accepted_eq_error_iff {α : Type} {checked : Schema.Checked α} {fault : Fault} :
    accepted checked = .error fault ↔
      ∃ issues, checked = .invalid issues ∧ fault = .invalid issues := by
  cases checked <;> simp [accepted, eq_comm]

/-- A document is checked as it was parsed, but for a blank one in YAML, which counts as a mapping
without entries. -/
theorem projectOf_of_parses (parses : Parses path content value) :
    projectOf path content =
      if path.suffix ≠ ".json" ∧ value.isEmpty = true then .ok .unstated
      else accepted (Project.check value) := by
  cases parses with
  | @json text document isJson decoded read =>
      have parsed : jsonValue content = .ok document.toValue := by
        simp only [jsonValue, decoded, read]
      rw [projectOf_of_ok ((if_pos isJson).trans parsed), if_neg fun blank => blank.1 isJson]
  | yaml isYaml read =>
      have parsed : yamlValue path.text content =
          .ok (if value.isEmpty then .map [] else value) := by
        simp only [yamlValue, read]
      rw [projectOf_of_ok ((if_neg isYaml).trans parsed)]
      by_cases empty : value.isEmpty = true
      · rw [if_pos empty, if_pos ⟨isYaml, empty⟩, Project.check_map_nil]
        rfl
      · rw [if_neg empty, if_neg fun blank => empty blank.2]

/-- A file that is parsed is loaded as a project exactly if its document is a mapping that passes
the check, or a blank one in YAML, whatever its kind. Otherwise the loading ends with the issues of
the check, which for a document that is no mapping is that alone. -/
theorem project_documents (found : session.lookUp path = .content content)
    (parses : Parses path content value) :
    (∀ loaded, (project path session).1 = .ok loaded ↔
      (∃ entries, value = .map entries ∧ Project.check (.map entries) = .valid loaded) ∨
        path.suffix ≠ ".json" ∧ value.IsBlank ∧ loaded = .unstated) ∧
    (∀ fault, (project path session).1 = .error fault ↔
      ¬ (path.suffix ≠ ".json" ∧ value.IsBlank) ∧
        ∃ issues, Project.check value = .invalid issues ∧ fault = .invalid issues) ∧
    ((∀ entries, value ≠ .map entries) → Project.check value = .invalid [Project.noMapping]) ∧
    (project path session).2 = session := by
  have run : project path session = (projectOf path content, session) := by
    rw [project_run, found]
  rw [run, projectOf_of_parses parses]
  simp only [← Value.isEmpty_iff]
  by_cases blank : path.suffix ≠ ".json" ∧ value.isEmpty = true
  · obtain ⟨isYaml, empty⟩ := blank
    simp only [isYaml, empty, ne_eq, not_false_eq_true, and_self, if_true, true_and]
    refine ⟨?_, ?_, Project.check_of_not_map, trivial⟩
    · intro loaded
      constructor
      · intro same
        exact .inr (Except.ok.inj same).symm
      · rintro (⟨entries, rfl, valid⟩ | rfl)
        · obtain rfl := List.isEmpty_iff.mp empty
          rw [Project.check_map_nil] at valid
          exact congrArg Except.ok (Schema.Checked.valid.inj valid)
        · rfl
    · intro fault
      simp
  · rw [if_neg blank]
    refine ⟨?_, ?_, Project.check_of_not_map, trivial⟩
    · intro loaded
      rw [accepted_eq_ok_iff, Project.check_eq_valid_iff]
      constructor
      · exact .inl
      · rintro (valid | ⟨isYaml, empty, _⟩)
        · exact valid
        · exact absurd ⟨isYaml, empty⟩ blank
    · intro fault
      rw [accepted_eq_error_iff]
      exact (and_iff_right blank).symm

/-- A list without items, as the bytes of a file. -/
def noItems : Text.Bytes := Text.Utf8.encode "[]"

/-- A session with two files of it, one of either format. -/
def withoutItems : Session :=
  { Session.fresh with
    files := (Session.fresh.files.put ["project.yaml"] (.file noItems)).put ["project.json"]
      (.file noItems) }

/-- Whether a value is a list without items. -/
def isNoItems : Value → Bool
  | .list [] => true
  | _ => false

theorem eq_of_isNoItems {value : Value} (same : isNoItems value = true) : value = .list [] := by
  unfold isNoItems at same
  split at same
  · rfl
  · cases same

theorem noItems_parses (path : FilePath) : Parses path noItems (.list []) := by
  by_cases isJson : path.suffix = ".json"
  · have read : (Json.read (Text.universalLines "[]".toList)).toOption.any
        (isNoItems ·.toValue) = true := by decide +kernel
    obtain ⟨document, came, same⟩ := (Option.any_eq_true _ _).mp read
    rw [← eq_of_isNoItems same]
    exact .json isJson (ok_of_toOption (by decide +kernel)) (ok_of_toOption came)
  · have read : (Yaml.read (.ofBytes noItems)).toOption.any isNoItems = true := by decide +kernel
    obtain ⟨value, came, same⟩ := (Option.any_eq_true _ _).mp read
    rw [← eq_of_isNoItems same]
    exact .yaml isJson (ok_of_toOption came)

/-- A list without items is loaded as a project from YAML, and refused in JSON. -/
theorem project_documents_noItems :
    (project ⟨"", ["project.yaml"]⟩ withoutItems).1 = .ok .unstated ∧
    (project ⟨"", ["project.json"]⟩ withoutItems).1 = .error (.invalid [Project.noMapping]) := by
  have found (path : FilePath) (there : withoutItems.lookUp path = .content noItems) :=
    project_documents there (noItems_parses path)
  constructor
  · apply ((found ⟨"", ["project.yaml"]⟩ (by decide +kernel)).1 _).mpr
    exact .inr ⟨by decide +kernel, .list, rfl⟩
  · apply ((found ⟨"", ["project.json"]⟩ (by decide +kernel)).2.1 _).mpr
    exact ⟨fun blank => blank.1 (by decide +kernel), _, rfl, rfl⟩

end Loading

end Multitarget
