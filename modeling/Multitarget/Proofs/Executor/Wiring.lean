import Multitarget.Executor.Wiring
import Multitarget.Proofs.Executor.Lookup
import Multitarget.Proofs.Executor.Verdict
import Multitarget.Proofs.Session.Version

/-!
# Wiring and the version in effect

Wiring puts the version of its configuration into effect before it follows references, and
what becomes of the references changes nothing about the version. So a failed wiring leaves a
version in effect that was in effect before, and its own where there was none; what comes of a
later one depends on the earlier ones through the version alone.
-/

namespace Multitarget

/-! ## Following references -/

/-- What is reached by following names. -/
def Registered.follow : List String → Registered → Option Registered
  | [], thing => some thing
  | name :: rest, thing =>
    match thing.members.find? fun entry => entry.1 == name with
    | some (_, member) => follow rest member
    | none => none

namespace Registry

variable (registry : Registry)

/-- How following a reference ends. -/
def loaded (reference : String) (field : Option String) : Except Fault Registered :=
  let (moduleName, member) := Reference.split reference
  if moduleName = "" then .error .emptyModule
  else if moduleName.toList.head? = some '.' then .error (.relativeModule moduleName)
  else
    match (registry.find? fun entry => entry.1 == moduleName).bind fun entry =>
        entry.2.follow (Reference.attributeNames member) with
    | some thing => .ok thing
    | none => .error (.failure (.backendLoad reference field))

/-- How making the component that a reference names ends. -/
def made (reference field : String) : Except Fault Component := do
  match (← registry.loaded reference (some field)).kind with
  | .factory _ (.ok component) => .ok component
  | .factory _ (.error exception) => .error (.raised exception)
  | _ => .error (.failure (.backendLoad reference (some field)))

theorem attribute?_lookup (thing : Registered) (name : String) :
    registry.lookup.attribute? thing name =
      (thing.members.find? fun entry => entry.1 == name).map Prod.snd := rfl

theorem importModule_empty : registry.lookup.importModule "" = .error .emptyModule := rfl

theorem importModule_relative {name : String} (relative : name.toList.head? = some '.') :
    registry.lookup.importModule name = .error (.relativeModule name) := by
  have named : name ≠ "" := by
    rintro rfl
    cases relative
  exact (if_neg named).trans (if_pos relative)

theorem importModule_lookup {name : String} (named : name ≠ "")
    (absolute : name.toList.head? ≠ some '.') :
    registry.lookup.importModule name =
      match registry.find? fun entry => entry.1 == name with
      | some (_, root) => .ok root
      | none => .error (.noModule name) :=
  (if_neg named).trans (if_neg absolute)

/-- Following names in a registry ends where they are members of members, and else with a failure
that is reported. -/
theorem mapError_follow (names : List String) (thing : Registered) (fault : Fault) :
    ((registry.lookup.follow thing names).mapError fun error => error.uncaught?.getD fault) =
      match thing.follow names with
      | some last => .ok last
      | none => .error fault := by
  induction names generalizing thing with
  | nil => rfl
  | cons name rest ih =>
      rw [Lookup.follow, Registered.follow]
      cases known : thing.members.find? fun entry => entry.1 == name with
      | none =>
          rw [attribute?_lookup, known]
          rfl
      | some entry =>
          rw [attribute?_lookup, known]
          exact ih entry.2

theorem loaded_lookup (reference : String) (field : Option String) :
    registry.lookup.loaded reference field = registry.loaded reference field := by
  rcases split : Reference.split reference with ⟨moduleName, member⟩
  rw [Lookup.loaded, Lookup.resolve_eq_bind, loaded, split]
  dsimp only
  by_cases unnamed : moduleName = ""
  · rw [if_pos unnamed, unnamed, importModule_empty]
    rfl
  · by_cases relative : moduleName.toList.head? = some '.'
    · rw [if_neg unnamed, if_pos relative, importModule_relative registry relative]
      rfl
    · rw [if_neg unnamed, if_neg relative, importModule_lookup registry unnamed relative]
      cases registry.find? fun entry => entry.1 == moduleName with
      | none => rfl
      | some entry => exact registry.mapError_follow (Reference.attributeNames member) entry.2 _

theorem load_makes (reference : String) (field : Option String) :
    (registry.load reference field).Makes (registry.loaded reference field) [] := by
  rw [← loaded_lookup]
  exact registry.lookup.load_makes reference field

/-- What a reference makes is decided by the registry. -/
theorem make_makes (reference field : String) :
    (registry.make reference field).Makes (registry.made reference field) [] := by
  apply (registry.load_makes reference (some field)).bind
  intro thing
  rcases thing.kind with ⟨name, exception | component⟩ | text | _
  · exact Action.makes_throw _
  · exact Action.makes_pure _
  · exact Action.makes_failLogged _
  · exact Action.makes_failLogged _

end Registry

/-- An executor has the version that it is given, or else the one in effect. -/
theorem Executor.make_run (backends : Backends) (version : Option Version)
    (scratch : ScratchSource) (sink : Sink) (session : Session) :
    make backends version scratch sink session =
      match version.or session.version with
      | some chosen => (.ok ⟨backends, chosen, scratch, sink⟩, session)
      | none => (.error .noVersion, session) := by
  unfold make
  rw [bind_of_ok (get_run session), Option.orElse_eq_orElse, Option.orElse_eq_or]
  cases version.or session.version <;> rfl

theorem Executor.make_makes (backends : Backends) (version : Version) (scratch : ScratchSource)
    (sink : Sink) :
    (make backends (some version) scratch sink).Makes (.ok ⟨backends, version, scratch, sink⟩)
      [] := by
  refine ⟨[], fun session => ?_, .nil⟩
  rw [make_run, Session.note_nil]
  rfl

namespace Wired

variable (registry : Registry) (configuration : Configuration) (setUpLog : Bool)

/-- Makes the source of scratch contexts, if the configuration names one. -/
def makeEnvironment : Action (Option Component) :=
  match configuration.backends.environment with
  | none => return none
  | some reference => some <$> registry.make reference "backends.environment"

/-- Makes the backends of a configuration whose version is in effect, and puts an executor
together. -/
def assemble (version : Version) (environment : Option Component) : Action Wired := do
  let references := configuration.backends
  let jvm ← registry.make references.jvm "backends.jvm"
  let js ← registry.make references.js "backends.js"
  let wasm ← registry.make references.wasm "backends.wasm"
  let completion ← registry.make references.completion "backends.completion"
  let scratch := (environment.map Component.scratch).getD ⟨none, none⟩
  let executor ← Executor.make (backends jvm js wasm completion) (some version) scratch
    (Sink.ofMode configuration.telemetry)
  Action.log .info "executor_built" [("version", .text version.compiler),
    ("telemetry", .text configuration.telemetry.name)]
  return ⟨executor, jvm.name, js.name, wasm.name, completion.name, environment.map Component.name⟩

theorem build_eq :
    build registry configuration setUpLog = (do
      if setUpLog then Action.emit (.configuredLog configuration.logging)
      let version ← VersionState.set configuration.version
      let environment ← makeEnvironment registry configuration
      assemble registry configuration version environment) := by
  unfold build makeEnvironment
  dsimp only
  cases configuration.backends.environment <;> rfl

/-- How making the source of scratch contexts ends. -/
def environmentMade : Except Fault (Option Component) :=
  match configuration.backends.environment with
  | none => .ok none
  | some reference => (registry.made reference "backends.environment").map some

/-- How making the backends and putting an executor together ends: one reference after another is
followed. -/
def assembled (version : Version) (environment : Option Component) : Except Fault Wired := do
  let references := configuration.backends
  let jvm ← registry.made references.jvm "backends.jvm"
  let js ← registry.made references.js "backends.js"
  let wasm ← registry.made references.wasm "backends.wasm"
  let completion ← registry.made references.completion "backends.completion"
  let scratch := (environment.map Component.scratch).getD ⟨none, none⟩
  let executor : Executor := ⟨backends jvm js wasm completion, version, scratch,
    Sink.ofMode configuration.telemetry⟩
  return ⟨executor, jvm.name, js.name, wasm.name, completion.name, environment.map Component.name⟩

/-- How wiring ends where the version of the configuration is in effect. -/
def made : Except Fault Wired := do
  let environment ← environmentMade registry configuration
  assembled registry configuration configuration.version environment

theorem makeEnvironment_makes :
    (makeEnvironment registry configuration).Makes (environmentMade registry configuration) [] := by
  unfold makeEnvironment environmentMade
  cases configuration.backends.environment with
  | none => exact Action.makes_pure none
  | some reference => exact (registry.make_makes reference _).map some

/-- What is put together is decided by the registry and the configuration. -/
theorem assemble_makes (version : Version) (environment : Option Component) :
    (assemble registry configuration version environment).Makes
      (assembled registry configuration version environment) [] := by
  apply (registry.make_makes _ _).bind
  intro jvm
  apply (registry.make_makes _ _).bind
  intro js
  apply (registry.make_makes _ _).bind
  intro wasm
  apply (registry.make_makes _ _).bind
  intro completion
  apply (Executor.make_makes _ version _ _).bind_ok
  exact (Action.makes_log _ _ _ rfl).bind_ok (Action.makes_pure _)

/-- The executor that is put together has the version of the configuration, and reports to the
sink that it asks for. -/
theorem executor_of_made {wired : Wired} (came : made registry configuration = .ok wired) :
    wired.executor.version = configuration.version ∧
      wired.executor.sink = .ofMode configuration.telemetry := by
  obtain ⟨environment, _, came⟩ := ok_of_bind came
  obtain ⟨jvm, _, came⟩ := ok_of_bind came
  obtain ⟨js, _, came⟩ := ok_of_bind came
  obtain ⟨wasm, _, came⟩ := ok_of_bind came
  obtain ⟨completion, _, came⟩ := ok_of_bind came
  obtain rfl := Except.ok.inj came
  exact ⟨rfl, rfl⟩

/-- Wiring comes to the same in every session that accepts the version of its configuration, and
to a refusal in any other. Either way a version is in effect afterwards: the one before, or the
configuration's where there was none. -/
theorem build_run (session : Session) :
    ∃ events, build registry configuration setUpLog session =
      (session.accept configuration.version >>= fun _ => made registry configuration,
        session.settled configuration.version events) := by
  obtain ⟨events, yielded, _⟩ := (makeEnvironment_makes registry configuration).bind
    (assemble_makes registry configuration configuration.version)
  have continued := VersionState.set_bind_run configuration.version
    (fun version => makeEnvironment registry configuration >>=
      assemble registry configuration version) yielded
  rw [build_eq]
  cases setUpLog with
  | false => exact continued session
  | true =>
      -- Setting up the log is an event of the session, which leaves its version alone.
      obtain ⟨more, ran⟩ := continued (session.note [.configuredLog configuration.logging])
      rw [Session.settled_note] at ran
      exact ⟨_, (bind_of_ok (Action.emit_run _ session)).trans ran⟩

/-! ## The version after wiring -/

variable {registry configuration setUpLog} {session after : Session}

/-- However wiring ends, a version that was in effect stays, and else that of the configuration
takes effect. -/
theorem build_version (registry : Registry) (configuration : Configuration) (setUpLog : Bool)
    (session : Session) :
    (build registry configuration setUpLog session).2.version =
      session.version.or (some configuration.version) := by
  obtain ⟨events, ran⟩ := build_run registry configuration setUpLog session
  rw [ran, Session.version_settled]

/-- What is wired is what is put together in a session that accepts the version. -/
theorem made_of_build {wired : Wired}
    (built : build registry configuration setUpLog session = (.ok wired, after)) :
    session.accept configuration.version = .ok () ∧ made registry configuration = .ok wired ∧
      after.version = some configuration.version := by
  obtain ⟨events, ran⟩ := build_run registry configuration setUpLog session
  rw [ran, ended_inj] at built
  obtain ⟨came, rfl⟩ := built
  obtain ⟨_, accepted, came⟩ := ok_of_bind came
  exact ⟨accepted, came, Session.version_of_accept accepted⟩

/-- An executor that was wired has the version of its configuration, which is in effect then. -/
theorem version_of_build {wired : Wired}
    (built : build registry configuration setUpLog session = (.ok wired, after)) :
    wired.executor.version = configuration.version ∧
      after.version = some configuration.version := by
  obtain ⟨_, came, inEffect⟩ := made_of_build built
  exact ⟨(executor_of_made registry configuration came).1, inEffect⟩

/-- Only whether the version is accepted matters to how wiring ends. -/
theorem build_congr {other : Session}
    (same : other.accept configuration.version = session.accept configuration.version) :
    (build registry configuration setUpLog other).1 =
      (build registry configuration setUpLog session).1 := by
  obtain ⟨_, ranOther⟩ := build_run registry configuration setUpLog other
  obtain ⟨_, ran⟩ := build_run registry configuration setUpLog session
  rw [ran, ranOther, same]

/-- Wiring is refused where another version is in effect. -/
theorem build_refused {present : Version} (inEffect : session.version = some present)
    (differs : configuration.version ≠ present) :
    (build registry configuration setUpLog session).1 = .error present.alreadySet := by
  obtain ⟨_, ran⟩ := build_run registry configuration setUpLog session
  rw [ran, Session.accept_of_ne inEffect differs]
  rfl

/-- A failed wiring leaves a version in effect that was in effect before, and where there was none,
that of its configuration. So a later one, of whatever registry and configuration, is refused on
its account only if no version was in effect and it comes with another version; otherwise it ends
as if there had been no failed one. -/
theorem failed_build_settles_version {fault : Fault}
    (failed : build registry configuration setUpLog session = (.error fault, after)) :
    (∀ present, session.version = some present → after.version = some present) ∧
    (session.version = none → after.version = some configuration.version) ∧
    ∀ (others : Registry) (next : Configuration) (setUpNext : Bool),
      (build others next setUpNext after).1 =
        if session.version = none ∧ next.version ≠ configuration.version then
          .error configuration.version.alreadySet
        else (build others next setUpNext session).1 := by
  have version := build_version registry configuration setUpLog session
  rw [failed] at version
  refine ⟨fun present inEffect => by rw [version, inEffect, Option.some_or],
    fun unset => by rw [version, unset, Option.none_or], fun others next setUpNext => ?_⟩
  cases inEffect : session.version with
  | some present =>
      rw [inEffect, Option.some_or, ← inEffect] at version
      rw [if_neg (by simp)]
      exact build_congr (Session.accept_congr version next.version)
  | none =>
      rw [inEffect, Option.none_or] at version
      by_cases same : next.version = configuration.version
      · rw [if_neg (by simp [same])]
        apply build_congr
        rw [Session.accept_of_none inEffect, Session.accept_of_eq (same ▸ version)]
      · rw [if_pos ⟨rfl, same⟩]
        exact build_refused version same

end Wired

/-! ## A failed wiring in the way of another -/

/-- A module with something that makes backends. -/
def Registry.single : Registry :=
  [("fakes", .mk .other [("Backend", .mk (.factory "Backend" (.ok
    ⟨"Backend", (Scripted.executor []).backends, ⟨none, none⟩⟩)) [])])]

/-- A configuration whose backends are all made by one reference. -/
def Configuration.naming (reference compiler : String) : Configuration where
  version := ⟨compiler, "1.0.0"⟩
  backends := ⟨reference, reference, reference, reference, none⟩
  telemetry := .none
  logging := .default

namespace Wired

/-- A wiring that fails at a missing name puts its version into effect, and one with another
version is refused after it that would have been made before it. -/
theorem failed_build_refuses_later :
    ∃ fault after wired later,
      build .single (.naming "fakes:Missing" "2.0.0") false Session.fresh = (.error fault, after) ∧
      after.version ≠ Session.fresh.version ∧
      build .single (.naming "fakes:Backend" "2.1.0") false Session.fresh = (.ok wired, later) ∧
      (build .single (.naming "fakes:Backend" "2.1.0") false after).1 =
        .error (Version.alreadySet ⟨"2.0.0", "1.0.0"⟩) :=
  ⟨_, _, _, _, rfl, by decide, rfl, rfl⟩

/-- After the failed wiring one with the same version is made. -/
theorem failed_build_allows_same :
    ∃ fault after wired,
      build .single (.naming "fakes:Missing" "2.0.0") false Session.fresh = (.error fault, after) ∧
      after.version = some ⟨"2.0.0", "1.0.0"⟩ ∧
      (build .single (.naming "fakes:Backend" "2.0.0") false after).1 = .ok wired := by
  obtain ⟨fault, after, failed⟩ : ∃ fault after, build .single (.naming "fakes:Missing" "2.0.0")
      false Session.fresh = (.error fault, after) := ⟨_, _, rfl⟩
  obtain ⟨wired, made⟩ : ∃ wired, (build .single (.naming "fakes:Backend" "2.0.0") false
      Session.fresh).1 = .ok wired := ⟨_, rfl⟩
  obtain ⟨_, taken, later⟩ := failed_build_settles_version failed
  refine ⟨fault, after, wired, failed, taken rfl, ?_⟩
  rw [later, if_neg (by simp [Configuration.naming]), made]

end Wired

end Multitarget
