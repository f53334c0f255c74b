import Multitarget.Proofs.Command.ExecutorLoading

/-!
# Command lines for the staged project

The files of the staged session are read once and for all. What a command line for its project
comes to is then a matter of the registry alone, since the wiring is all that is left of loading.
-/

namespace Multitarget

/-- Only what comes of an attempt matters to what follows it. -/
theorem Attempt.bind_congr {α β : Type} {first other : Attempt α} {next : α → Attempt β}
    {session another : Session} (same : first session = other another) :
    (first >>= next) session = (other >>= next) another := by
  change (first >>= ExceptT.bindCont next : Action (Except Refusal β)) session =
    (other >>= ExceptT.bindCont next : Action (Except Refusal β)) another
  rw [bind_run, bind_run, same]

namespace Loading

variable {path : FilePath} {session : Session} {configuration : Configuration}

theorem exists_content_of_ok {found : Finding}
    (loaded : configurationAt path found = .ok configuration) :
    ∃ content, found = .content content := by
  cases found with
  | content content => exact ⟨content, rfl⟩
  | nothing | directory | tooLong => cases loaded

/-- A configuration that can be loaded is loaded without a note in the log. -/
theorem configuration_of_ok
    (loaded : configurationAt path (session.lookUp path) = .ok configuration) :
    Loading.configuration path session = (.ok configuration, session) := by
  have looked := Action.fileExists_run path session
  obtain ⟨content, found⟩ := exists_content_of_ok loaded
  rw [found] at looked loaded
  rw [Loading.configuration, bind_of_ok looked]
  simp only [Bool.not_true, Bool.false_eq_true, if_false]
  rw [bind_of_ok (Action.observe_run _ session), readYaml_of_content found]
  simp only [configurationAt, configurationFrom] at loaded
  cases read : yamlValue path.text content with
  | error fault =>
      rw [read] at loaded
      split at loaded <;> simp_all
  | ok value =>
      simp only [read] at loaded
      simp only [pure_bind]
      cases checked : Configuration.check value with
      | valid known =>
          simp only [checked] at loaded
          rw [Except.ok.inj loaded]
          rfl
      | invalid issues =>
          simp only [checked] at loaded
          cases issues <;> cases loaded

end Loading

/-! ## Files -/

/-- The project of the staged session. -/
def Project.staged : Project := ⟨"", [⟨"File.kt", ""⟩], .java, false, List.pairwise_singleton _ _⟩

namespace Session

/-- The staged session when a command line starts. -/
def started : Session := { staged with trace := [] }

/-- The staged session when its configuration has been found. -/
def located : Session :=
  started.note [.logged ⟨.debug, "config_found", [("path", .text "kompile.yaml")]⟩]

end Session

namespace Operation

open Loading

theorem loadProject_started :
    loadProject "project.json" .started = (.ok (.ok .staged), .started) := by
  obtain ⟨content, found, loaded⟩ : ∃ content,
      Session.started.lookUp (.ofText "project.json") = .content content ∧
        projectOf (.ofText "project.json") content = .ok .staged := by
    have loads : (match Session.started.lookUp (.ofText "project.json") with
        | .content content => (projectOf (.ofText "project.json") content).toOption
        | _ => none) = some .staged := by
      decide +kernel
    split at loads
    next content found => exact ⟨content, found, ok_of_toOption loads⟩
    next => cases loads
  rw [loadProject_run, found]
  simp only [loaded]
  rfl

/-- The only evaluation of the text of the configuration. -/
theorem configuration_staged :
    configurationAt (.ofText "kompile.yaml") (Session.located.lookUp (.ofText "kompile.yaml")) =
      .ok .staged :=
  ok_of_toOption (by decide +kernel)

theorem configurationOf_started :
    configurationOf none none .started = (.ok .staged, .located) := by
  have found : findConfiguration none [] .started =
      (.ok (some (.ofText "kompile.yaml")), .located) := by
    have here : candidate ⟨"", []⟩ = .ofText "kompile.yaml" := by decide
    have looked : Action.fileExists (.ofText "kompile.yaml") .started = (.ok true, .started) := by
      rw [Action.fileExists_run]
      obtain ⟨content, present⟩ := exists_content_of_ok configuration_staged
      have same : Session.started.lookUp (.ofText "kompile.yaml") = .content content := present
      rw [same]
    rw [findConfiguration, Option.filter_none]
    simp only [List.isEmpty_nil, if_true, searchDirectories, searchConfiguration]
    rw [← candidate, here, bind_of_ok looked]
    rfl
  rw [configurationOf]
  exact (bind_of_ok found).trans (configuration_of_ok configuration_staged)

/-- What is left of loading when the files have been read. -/
def wire (registry : Registry) : Attempt (Project × Executor) := do
  let executor ← Attempt.explaining Refusal.ofFailure do
    let wired ← Wired.build registry .staged true
    return wired.executor
  return (.staged, executor)

theorem load_started (registry : Registry) {arguments : Arguments}
    (named : arguments.project = "project.json") (unnamed : arguments.config = none) :
    load ⟨registry, none⟩ arguments .started = wire registry .located := by
  have executor : loadExecutor ⟨registry, none⟩ none .started =
      Attempt.explaining Refusal.ofFailure (do
        let wired ← Wired.build registry .staged true
        return wired.executor) .located := by
    rw [loadExecutor, Attempt.explaining_run, bind_of_ok configurationOf_started,
      ← Attempt.explaining_run]
  rw [load, named, unnamed, Attempt.bind_of_ok loadProject_started, wire]
  exact Attempt.bind_congr executor

end Operation

namespace Invocation

/-- The invocation that a command line for the staged project is, if it comes to a request; the
files have been read already. -/
def prepared? (operation : String) (reply : Reply) (command : Command) (words : List String) :
    Option Invocation :=
  let registry := Registry.scripted [(operation, .ok reply)]
  let words := "--project" :: "project.json" :: words
  match understood : Arguments.ofWords command words with
  | .error _ => none
  | .ok arguments =>
    if usual : arguments.help = false ∧ arguments.project = "project.json" ∧
        arguments.config = none then
      match wired : Operation.wire registry .located with
      | (.ok (.ok (project, executor)), ready) =>
        match asked : command.request? arguments project with
        | some request => some {
            surroundings := ⟨registry, none⟩, onConsole := false, command, words,
            session := .staged, arguments, project, executor, ready, request, understood,
            isNoHelp := usual.1, asked,
            loaded := (Operation.load_started registry usual.2.1 usual.2.2).trans wired }
        | none => none
      | _ => none
    else none

end Invocation

end Multitarget
