import Multitarget.Proofs.Executor.Course
import Multitarget.Proofs.Executor.Wiring

/-!
# Setting up, step by step

Versions are set and looked up, executors are wired from configurations and put together by
hand, in any order and with any success. The first version that a step comes with is in effect
from then on, and every executor that is made without one of its own has it.
-/

namespace Multitarget

/-- An operation is reported under the version of the executor that performs it. -/
theorem Primary.version_of_observation {operation : Primary} {executor : Executor}
    {project : Project} {session : Session} {observation : Observation}
    (reports : operation.observation? executor project session = some observation) :
    observation.version = executor.version.compiler := by
  unfold observation? at reports
  split at reports
  next => exact Option.some.inj reports ▸ rfl
  next => nomatch reports

/-- A step of setting up executors. -/
inductive Setup where
  /-- Puts a version into effect. -/
  | set (version : Version)
  /-- Looks up the version in effect. -/
  | current
  /-- Wires an executor as a configuration says. -/
  | build (registry : Registry) (configuration : Configuration) (setUpLog : Bool)
  /-- Puts an executor together, with a version of its own or with the one in effect. -/
  | construct (backends : Backends) (version : Option Version) (scratch : ScratchSource)
      (sink : Sink)

namespace Setup

/-- What a step gives. -/
inductive Result where
  | set (version : Version)
  | current (version : Option Version)
  | wired (wired : Wired)
  | executor (executor : Executor)

/-- Takes a step. -/
def perform : Setup → Action Result
  | .set version => .set <$> VersionState.set version
  | .current => .current <$> VersionState.current
  | .build registry configuration setUpLog =>
      .wired <$> Wired.build registry configuration setUpLog
  | .construct backends version scratch sink =>
      .executor <$> Executor.make backends version scratch sink

/-- The session after some steps, whether they succeed or not. -/
def after : List Setup → Session → Session
  | [], session => session
  | step :: rest, session => after rest (step.perform session).2

/-- The version that a step is to put into effect, if any. -/
def version? : Setup → Option Version
  | .set version => some version
  | .current => none
  | .build _ configuration _ => some configuration.version
  | .construct _ _ _ _ => none

/-! ## One step -/

variable {step : Setup} {session : Session}

/-- A step leaves a version in effect alone; else its own takes effect, whether it succeeds or
not. -/
theorem version_perform (step : Setup) (session : Session) :
    (step.perform session).2.version = session.version.or step.version? := by
  cases step with
  | set version =>
      obtain ⟨events, ran⟩ := VersionState.set_run version session
      rw [perform, map_run, ran]
      rfl
  | current => exact (Option.or_none).symm
  | build registry configuration setUpLog =>
      rw [perform, map_run]
      exact Wired.build_version registry configuration setUpLog session
  | construct backends version scratch sink =>
      rw [perform, map_run, Executor.make_run]
      cases version.or session.version <;> exact (Option.or_none).symm

/-- A step with another version than the one in effect is refused. -/
theorem perform_refused {present other : Version} (inEffect : session.version = some present)
    (asked : step.version? = some other) (differs : other ≠ present) :
    (step.perform session).1 = .error present.alreadySet := by
  cases step with
  | set version =>
      obtain rfl := Option.some.inj asked
      obtain ⟨events, ran⟩ := VersionState.set_run version session
      rw [perform, map_run, ran, Session.accept_of_ne inEffect differs]
      rfl
  | build registry configuration setUpLog =>
      obtain rfl := Option.some.inj asked
      rw [perform, map_run, Wired.build_refused inEffect differs]
      rfl
  | current | construct => nomatch asked

/-- An executor that is wired has the version of its configuration, which is in effect then. -/
theorem version_of_perform_build {registry : Registry} {configuration : Configuration}
    {setUpLog : Bool} {wired : Wired}
    (made : (perform (.build registry configuration setUpLog) session).1 = .ok (.wired wired)) :
    wired.executor.version = configuration.version ∧
      (perform (.build registry configuration setUpLog) session).2.version =
        some configuration.version := by
  rcases ran : Wired.build registry configuration setUpLog session with ⟨fault | built, final⟩
  · rw [perform, map_run, ran] at made
    nomatch made
  · rw [perform, map_run, ran] at made ⊢
    obtain rfl : built = wired := by simpa [Except.map] using made
    exact Wired.version_of_build ran

/-- An executor without a version of its own has the one in effect; without one in effect there is
no executor. -/
theorem perform_construct (backends : Backends) (scratch : ScratchSource) (sink : Sink)
    (session : Session) :
    (perform (.construct backends none scratch sink) session).1 =
      match session.version with
      | none => .error .noVersion
      | some present => .ok (.executor ⟨backends, present, scratch, sink⟩) := by
  rw [perform, map_run, Executor.make_run, Option.none_or]
  cases session.version <;> rfl

/-! ## Any number of steps -/

theorem after_append (earlier later : List Setup) (session : Session) :
    after (earlier ++ later) session = after later (after earlier session) := by
  induction earlier generalizing session with
  | nil => rfl
  | cons step rest ih => exact ih (step.perform session).2

/-- The version in effect stays; where there is none, it is the first that a step comes with. -/
theorem version_after (steps : List Setup) (session : Session) :
    (after steps session).version = session.version.or (steps.findSome? version?) := by
  induction steps generalizing session with
  | nil => exact Option.or_none.symm
  | cons step rest ih =>
      -- A first step with a version settles it; one without leaves the choice to the rest.
      rw [after, ih, version_perform, Option.or_assoc, List.findSome?_cons]
      cases step.version? <;> rfl

/-- At any step of a row, the version in effect is the first that came before. It stays for the
rest of the row, and a step with another one is refused. An executor that is wired has the version
of its configuration, which stays in effect. One that is put together without a version of its own
has the one in effect, and reports under it whatever it is used for later; without one in effect
there is none. -/
theorem first_version_stays (start : Session) (earlier later : List Setup) (step : Setup) :
    let before := after earlier start
    let final := after (earlier ++ step :: later) start
    before.version = start.version.or (earlier.findSome? version?) ∧
    (∀ present, before.version = some present → final.version = some present ∧
      ∀ other, step.version? = some other → other ≠ present →
        (step.perform before).1 = .error present.alreadySet) ∧
    (step = .current → (step.perform before).1 = .ok (.current before.version)) ∧
    (∀ registry configuration setUpLog wired, step = .build registry configuration setUpLog →
      (step.perform before).1 = .ok (.wired wired) →
        wired.executor.version = configuration.version ∧
        final.version = some configuration.version) ∧
    ∀ backends scratch sink, step = .construct backends none scratch sink →
      match before.version with
      | none => (step.perform before).1 = .error .noVersion
      | some present => ∃ executor, (step.perform before).1 = .ok (.executor executor) ∧
          executor.version = present ∧
          ∀ operation project session observation,
            Primary.observation? operation executor project session = some observation →
              observation.version = present.compiler := by
  intro before final
  have final_eq : final = after later (step.perform before).2 := after_append _ _ _
  refine ⟨version_after earlier start, fun present inEffect => ⟨?_, ?_⟩, ?_, ?_, ?_⟩
  · rw [final_eq, version_after, version_perform, inEffect]
    rfl
  · exact fun other asked differs => perform_refused inEffect asked differs
  · rintro rfl
    rfl
  · rintro registry configuration setUpLog wired rfl made
    obtain ⟨same, inEffect⟩ := version_of_perform_build made
    refine ⟨same, ?_⟩
    rw [final_eq, version_after, inEffect]
    rfl
  · rintro backends scratch sink rfl
    rw [perform_construct]
    cases before.version with
    | none => rfl
    | some present => exact ⟨_, rfl, rfl, fun _ _ _ _ => Primary.version_of_observation⟩

/-- The version of a wiring that failed is what a later executor has, and no other gets into
effect. -/
theorem executor_has_first_version :
    let steps := [.construct (Scripted.executor []).backends none ⟨none, none⟩ .none,
      .build .single (.naming "fakes:Missing" "2.0.0") false, .set ⟨"2.1.0", "1.0.0"⟩]
    ∃ executor,
      ((Setup.construct (Scripted.executor []).backends none ⟨none, none⟩ .none).perform
        (after steps Session.fresh)).1 = .ok (.executor executor) ∧
      executor.version = ⟨"2.0.0", "1.0.0"⟩ := by
  intro steps
  obtain ⟨first, _, _, _, constructed⟩ := first_version_stays Session.fresh steps []
    (.construct (Scripted.executor []).backends none ⟨none, none⟩ .none)
  have inEffect : (after steps Session.fresh).version = some ⟨"2.0.0", "1.0.0"⟩ := first
  have made := constructed _ _ _ rfl
  rw [inEffect] at made
  obtain ⟨executor, came, same, _⟩ := made
  exact ⟨executor, came, same⟩

end Setup

end Multitarget
