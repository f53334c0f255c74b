import Multitarget.Proofs.Domain.Reference
import Multitarget.Proofs.Domain.RoundTrip
import Multitarget.Proofs.Executor.Wiring

/-!
# What references come to

A reference of the right form leads to something in the registry or to nothing, and what it leads to
can be called or not. Wiring follows the references of its configuration one after another. It fails
at the first that does not answer with a component, and only there.
-/

namespace Multitarget

/-! ## Answers -/

/-- The answer of something that is called, if it can be. -/
def Registered.answer? (thing : Registered) : Option (Answer Component) :=
  match thing.kind with
  | .factory _ answer => some answer
  | _ => none

namespace Registry

variable {registry : Registry} {reference field : String} {fault : Fault}

/-- What a reference leads to. -/
def resolve (registry : Registry) (reference : String) : Option Registered :=
  (registry.find? fun entry => entry.1 == (Reference.split reference).1).bind fun entry =>
    entry.2.follow (Reference.attributeNames (Reference.split reference).2)

/-- The answer of what a reference leads to, if there is something that can be called. -/
def answer? (registry : Registry) (reference : String) : Option (Answer Component) :=
  (registry.resolve reference).bind Registered.answer?

theorem loaded_of_isReference (named : Reference.isReference reference = true)
    (field : Option String) :
    registry.loaded reference field =
      match registry.resolve reference with
      | some thing => .ok thing
      | none => .error (.failure (.backendLoad reference field)) := by
  obtain ⟨present, absolute⟩ :=
    Reference.namesModule_iff.mp (Reference.namesModule_of_isReference named)
  rcases parts : Reference.split reference with ⟨moduleName, member⟩
  rw [parts] at present absolute
  cases found : registry.resolve reference with
  | none =>
      rw [resolve, parts] at found
      simp only [loaded, parts, if_neg present, if_neg absolute, found]
  | some thing =>
      rw [resolve, parts] at found
      simp only [loaded, parts, if_neg present, if_neg absolute, found]

/-- A reference makes the component that its answer gives. -/
theorem made_of_isReference (named : Reference.isReference reference = true) (field : String) :
    registry.made reference field =
      match registry.answer? reference with
      | some (.ok component) => .ok component
      | some (.error exception) => .error (.raised exception)
      | none => .error (.failure (.backendLoad reference (some field))) := by
  rw [made, loaded_of_isReference named, answer?]
  cases registry.resolve reference with
  | none => rfl
  | some thing =>
      simp only [Option.bind_some, Registered.answer?, bind, Except.bind]
      rcases thing.kind with ⟨name, exception | component⟩ | text | _ <;> rfl

/-- Where following references stops, each with the field that holds it: at the first that does not
answer with a component. -/
inductive Stops (registry : Registry) : List (String × String) → Fault → Prop where
  | unanswered {reference field : String} {rest : List (String × String)}
      (silent : registry.answer? reference = none) :
      Stops registry ((reference, field) :: rest) (.failure (.backendLoad reference (some field)))
  | raised {reference field : String} {rest : List (String × String)} {exception : Exception}
      (raises : registry.answer? reference = some (.error exception)) :
      Stops registry ((reference, field) :: rest) (.raised exception)
  | later {reference field : String} {rest : List (String × String)} {component : Component}
      {fault : Fault} (answers : registry.answer? reference = some (.ok component))
      (stops : Stops registry rest fault) : Stops registry ((reference, field) :: rest) fault

theorem not_stops_nil : ¬ registry.Stops [] fault := nofun

theorem stops_cons_iff (named : Reference.isReference reference = true)
    {rest : List (String × String)} :
    registry.Stops ((reference, field) :: rest) fault ↔
      registry.made reference field = .error fault ∨
        ∃ component, registry.made reference field = .ok component ∧ registry.Stops rest fault := by
  rw [made_of_isReference named]
  constructor
  · intro stops
    cases stops with
    | unanswered silent => exact .inl (by rw [silent])
    | raised raises => exact .inl (by rw [raises])
    | later answers stops => exact .inr ⟨_, by rw [answers], stops⟩
  · intro either
    cases answered : registry.answer? reference with
    | none =>
        rw [answered] at either
        rcases either with failed | ⟨component, made, _⟩
        · obtain rfl := Except.error.inj failed
          exact .unanswered answered
        · cases made
    | some answer =>
        rw [answered] at either
        cases answer with
        | error exception =>
            rcases either with failed | ⟨component, made, _⟩
            · obtain rfl := Except.error.inj failed
              exact .raised answered
            · cases made
        | ok component =>
            rcases either with failed | ⟨other, _, stops⟩
            · cases failed
            · exact .later answered stops

end Registry

/-! ## Wiring -/

/-- The references of a configuration with the fields that hold them, in the order in which they are
followed. -/
def BackendReferences.listed (references : BackendReferences) : List (String × String) :=
  (references.environment.map fun reference => (reference, "backends.environment")).toList ++
    [(references.jvm, "backends.jvm"), (references.js, "backends.js"),
      (references.wasm, "backends.wasm"), (references.completion, "backends.completion")]

namespace Wired

variable {registry : Registry} {configuration : Configuration} {fault : Fault}

/-- Wiring fails where following the references of its configuration stops. -/
theorem made_eq_error_iff (named : configuration.backends.AreReferences) :
    made registry configuration = .error fault ↔
      registry.Stops configuration.backends.listed fault := by
  obtain ⟨jvm, js, wasm, completion, environment⟩ := named
  have assembles (environment : Option Component) :
      assembled registry configuration configuration.version environment = .error fault ↔
        registry.Stops [(configuration.backends.jvm, "backends.jvm"),
          (configuration.backends.js, "backends.js"),
          (configuration.backends.wasm, "backends.wasm"),
          (configuration.backends.completion, "backends.completion")] fault := by
    have put (wired : Wired) : (pure wired : Except Fault Wired) ≠ .error fault := nofun
    simp only [assembled, bind_eq_error_iff, put, Registry.stops_cons_iff jvm,
      Registry.stops_cons_iff js, Registry.stops_cons_iff wasm,
      Registry.stops_cons_iff completion, Registry.not_stops_nil]
  rw [made, environmentMade, BackendReferences.listed]
  cases known : configuration.backends.environment with
  | none => exact assembles none
  | some reference =>
      have made : (registry.made reference "backends.environment").map some >>=
            assembled registry configuration configuration.version =
          registry.made reference "backends.environment" >>= fun component =>
            assembled registry configuration configuration.version (some component) := by
        cases registry.made reference "backends.environment" <;> rfl
      rw [made, bind_eq_error_iff]
      simp only [assembles]
      exact (Registry.stops_cons_iff (environment reference known)).symm

end Wired

end Multitarget
