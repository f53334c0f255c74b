import Multitarget.Executor.Basic
import Multitarget.Executor.Lookup
import Multitarget.Session.VersionState

/-!
# Wiring

A configuration names backends by references into a registry of modules. Wiring
follows the references, makes each backend, and puts an executor together. The
version of the configuration takes effect first.
-/

namespace Multitarget

/-- What a factory makes: something with a name that offers operations of backends, or scratch
contexts, or both. -/
structure Component where
  name : String
  backends : Backends
  scratch : ScratchSource

/-- What a name in a module stands for. -/
inductive Registered.Kind where
  /-- Something that can be called to make a component. -/
  | factory (name : String) (make : Answer Component)
  /-- A text. -/
  | text (value : String)
  /-- Something else. -/
  | other

/-- A thing with a name in a module, and the things with names in it. -/
inductive Registered where
  | mk (kind : Registered.Kind) (members : List (String × Registered))

namespace Registered

/-- What it stands for. -/
def kind : Registered → Kind
  | .mk kind _ => kind

/-- The things with names in it. -/
def members : Registered → List (String × Registered)
  | .mk _ members => members

end Registered

/-- The modules that references can name. -/
abbrev Registry := List (String × Registered)

namespace Registry

/-- How modules and attributes are looked up in a registry. -/
def lookup (registry : Registry) : Lookup Registered where
  importModule name :=
    if name = "" then .error .emptyModule
    else if name.toList.head? = some '.' then .error (.relativeModule name)
    else
      match registry.find? fun entry => entry.1 == name with
      | some (_, root) => .ok root
      | none => .error (.noModule name)
  attribute? thing name := (thing.members.find? fun entry => entry.1 == name).map Prod.snd

/-- Follows a reference; a failure names the field that holds it. -/
def load (registry : Registry) (reference : String) (field : Option String) :
    Action Registered :=
  registry.lookup.load reference field

/-- Makes the component that a reference names. -/
def make (registry : Registry) (reference field : String) : Action Component := do
  match (← registry.load reference (some field)).kind with
  | .factory _ answer =>
    match answer with
    | .ok component => return component
    | .error exception => throw (.raised exception)
  | _ => Action.failLogged (.backendLoad reference (some field))

end Registry

/-- An executor with the names of what it is made of. -/
structure Wired where
  executor : Executor
  jvm : String
  js : String
  wasm : String
  completion : String
  environment : Option String

namespace Wired

/-- The operations of four components, each for its own part. -/
def backends (jvm js wasm completion : Component) : Backends where
  run := jvm.backends.run
  test := jvm.backends.test
  compile := jvm.backends.compile
  translateJs := js.backends.translateJs
  translateWasm := wasm.backends.translateWasm
  complete := completion.backends.complete

/-- Puts an executor together as a configuration says. -/
def build (registry : Registry) (configuration : Configuration) (setUpLog : Bool) :
    Action Wired := do
  if setUpLog then Action.emit (.configuredLog configuration.logging)
  let version ← VersionState.set configuration.version
  let references := configuration.backends
  let environment ←
    match references.environment with
    | none => pure none
    | some reference => some <$> registry.make reference "backends.environment"
  let jvm ← registry.make references.jvm "backends.jvm"
  let js ← registry.make references.js "backends.js"
  let wasm ← registry.make references.wasm "backends.wasm"
  let completion ← registry.make references.completion "backends.completion"
  let scratch := (environment.map Component.scratch).getD ⟨none, none⟩
  let executor ← Executor.make (backends jvm js wasm completion) (some version) scratch
    (Sink.ofMode configuration.telemetry)
  Action.log .info "executor_built" [("version", .text version.compiler),
    ("telemetry", .text configuration.telemetry.name)]
  return ⟨executor, jvm.name, js.name, wasm.name, completion.name, environment.map Component.name⟩

end Wired

end Multitarget
