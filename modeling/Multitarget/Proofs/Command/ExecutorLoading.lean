import Multitarget.Proofs.Command.Invocation
import Multitarget.Proofs.Command.ProjectLoading
import Multitarget.Proofs.Executor.References
import Multitarget.Proofs.Session.ConfigurationLoading

/-!
# How putting an executor together ends

An executor is put together from the configuration that is found, with the components that its
references answer with. Where the library reports a failure on the way, it is refused as an error of
the user. But not everything that is at fault is reported as a failure: a path that is too long or
leads to a directory, a file that is no text or has a scalar that does not fit its tag, and an
exception of what a reference leads to end the loading with a fault that is passed on.
-/

namespace Multitarget

open Loading

/-! ## Causes -/

namespace Surroundings

/-- What an executor is put together from: a configuration whose version is accepted. -/
structure Configures (surroundings : Surroundings) (path : Option String) (session : Session)
    (configuration : Configuration) : Prop where
  loaded : configurationIn surroundings.setting path session = .ok configuration
  accepted : session.accept configuration.version = .ok ()

/-- The failures of putting an executor together. -/
inductive Reports (surroundings : Surroundings) (path : Option String) (session : Session) :
    Failure → Prop where
  | unfound (nowhere : configurationPath surroundings.setting path session = none) :
      Reports surroundings path session unfound
  | unloaded {file : FilePath} {failure : Failure}
      (chosen : configurationPath surroundings.setting path session = some file)
      (ofConfiguration : failure.OfConfiguration file (session.lookUp file)) :
      Reports surroundings path session failure
  | otherVersion {configuration : Configuration} {present : Version}
      (loaded : configurationIn surroundings.setting path session = .ok configuration)
      (inEffect : session.version = some present) (differs : configuration.version ≠ present) :
      Reports surroundings path session
        (.versionAlreadySet ("Version already set to " ++ present.compiler))
  | stopped {configuration : Configuration} {fault : Fault} {failure : Failure}
      (configures : surroundings.Configures path session configuration)
      (stops : surroundings.registry.Stops configuration.backends.listed fault)
      (known : fault.failure? = some failure) : Reports surroundings path session failure

/-- The faults of putting an executor together that are no failures. -/
inductive Leaks (surroundings : Surroundings) (path : Option String) (session : Session) :
    Fault → Prop where
  | unloaded {file : FilePath} {fault : Fault}
      (chosen : configurationPath surroundings.setting path session = some file)
      (ofConfiguration : fault.OfConfiguration file (session.lookUp file)) :
      Leaks surroundings path session fault
  | raised {configuration : Configuration} {exception : Exception}
      (configures : surroundings.Configures path session configuration)
      (stops : surroundings.registry.Stops configuration.backends.listed (.raised exception))
      (foreign : (Fault.raised exception).failure? = none) :
      Leaks surroundings path session (.raised exception)

/-! ## Endings -/

/-- How putting an executor together ends. -/
def wired (surroundings : Surroundings) (path : Option String) (session : Session) :
    Except Fault Wired := do
  let configuration ← configurationIn surroundings.setting path session
  session.accept configuration.version
  Wired.made surroundings.registry configuration

variable {surroundings : Surroundings} {path : Option String} {session : Session}

theorem wired_of_loaded {configuration : Configuration}
    (loaded : configurationIn surroundings.setting path session = .ok configuration) :
    surroundings.wired path session = (session.accept configuration.version >>= fun _ =>
      Wired.made surroundings.registry configuration) := by
  rw [wired, loaded]
  rfl

theorem Configures.wired_eq {configuration : Configuration}
    (configures : surroundings.Configures path session configuration) :
    surroundings.wired path session = Wired.made surroundings.registry configuration := by
  rw [wired_of_loaded configures.loaded, configures.accepted]
  rfl

theorem wired_of_error {fault : Fault}
    (unloaded : configurationIn surroundings.setting path session = .error fault) :
    surroundings.wired path session = .error fault := by
  rw [wired, unloaded]
  rfl

theorem configurationIn_of_chosen {file : FilePath}
    (chosen : configurationPath surroundings.setting path session = some file) :
    configurationIn surroundings.setting path session =
      configurationAt file (session.lookUp file) := by
  rw [configurationIn, chosen]

/-- A failure is what the putting together ends with, by itself or by what something raised. -/
theorem Reports.ends {failure : Failure} (reports : surroundings.Reports path session failure) :
    ∃ fault, surroundings.wired path session = .error fault ∧ fault.failure? = some failure := by
  cases reports with
  | unfound nowhere =>
      refine ⟨.failure Loading.unfound, wired_of_error ?_, rfl⟩
      rw [configurationIn, nowhere]
  | unloaded chosen ofConfiguration =>
      refine ⟨.failure failure, wired_of_error ?_, rfl⟩
      exact (configurationIn_of_chosen chosen).trans (configurationAt_of_failure ofConfiguration)
  | @otherVersion configuration present loaded inEffect differs =>
      refine ⟨present.alreadySet, ?_, rfl⟩
      rw [wired_of_loaded loaded, Session.accept_of_ne inEffect differs]
      rfl
  | @stopped configuration fault _ configures stops known =>
      have sound := isSound_of_configurationIn configures.loaded
      refine ⟨fault, ?_, known⟩
      rw [configures.wired_eq]
      exact (Wired.made_eq_error_iff sound.backends).mpr stops

theorem Leaks.ends {fault : Fault} (leaks : surroundings.Leaks path session fault) :
    surroundings.wired path session = .error fault ∧ fault.failure? = none := by
  cases leaks with
  | unloaded chosen ofConfiguration =>
      constructor
      · apply wired_of_error
        exact (configurationIn_of_chosen chosen).trans (configurationAt_of_fault ofConfiguration)
      · exact ofConfiguration.failure?_eq
  | @raised configuration exception configures stops foreign =>
      have sound := isSound_of_configurationIn configures.loaded
      refine ⟨?_, foreign⟩
      rw [configures.wired_eq]
      exact (Wired.made_eq_error_iff sound.backends).mpr stops

end Surroundings

namespace Operation

open Attempt

variable {surroundings : Surroundings} {path : Option String} {session : Session}

end Operation

/-! ## Faults that nothing explains -/

/-- An exception of what makes a backend. -/
def Exception.factoryFailed : Exception :=
  .mk "RuntimeError" (.ordinary "factory failed") none none false

/-- A registry with something that raises it. -/
def Registry.broken : Registry :=
  [("fakes", .mk .other [("Backend", .mk (.factory "Backend" (.error .factoryFailed)) [])])]

/-- The configuration of the staged session. -/
def Configuration.staged : Configuration where
  version := ⟨"2.1.0", "1"⟩
  backends := ⟨"fakes:Backend", "fakes:Backend", "fakes:Backend", "fakes:Backend", none⟩
  telemetry := .none
  logging := .default

end Multitarget
