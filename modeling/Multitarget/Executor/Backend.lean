import Multitarget.Domain.Completion
import Multitarget.Session.Event

/-!
# Backends

The operations that do the work: each answers with a result or raises an
exception. They see the files of a project and the options that concern them.
Backends are found at run time, so one may lack an operation, or hand back
something else than it is asked for.
-/

namespace Multitarget

/-- What a call answers, or the exception it raises. -/
abbrev Answer (α : Type) := Except Exception α

/-- What an operation of a backend hands back. -/
inductive Reply where
  | outcome (outcome : Outcome)
  | proposals (items : List Completion)

/-- An operation of a backend, as far as there is one. -/
inductive Operation (α : Type) where
  | ready (call : α)
  /-- There is no such operation. -/
  | absent (exception : Exception)
  /-- The operation takes other parameters, which shows when it is called. -/
  | unfit (exception : Exception)

/-- An operation with its call changed. -/
def Operation.map {α β : Type} (change : α → β) : Operation α → Operation β
  | .ready call => .ready (change call)
  | .absent exception => .absent exception
  | .unfit exception => .unfit exception

/-- The operations of backends. -/
structure Backends where
  run : Operation (List SourceHandle → (addByteCode : Bool) → (arguments : String) → Answer Reply)
  test : Operation (List SourceHandle → (addByteCode : Bool) → Answer Reply)
  compile : Operation (List SourceHandle → (addClasspath : Bool) → Answer Reply)
  translateJs : Operation (List SourceHandle → (arguments : List String) → Answer Reply)
  translateWasm : Operation (List SourceHandle → (arguments : List String) → Variant →
    (debugInfo : Bool) → Answer Reply)
  complete : Operation (SourceHandle → (line column : Int) → Target → ContextId → Answer Reply)

/-- The operations of backends that hand back what they are asked for. -/
structure Providers where
  run : List SourceHandle → (addByteCode : Bool) → (arguments : String) → Answer Execution
  test : List SourceHandle → (addByteCode : Bool) → Answer Execution
  compile : List SourceHandle → (addClasspath : Bool) → Answer (Compilation ClassFiles)
  translateJs : List SourceHandle → (arguments : List String) → Answer (Compilation String)
  translateWasm : List SourceHandle → (arguments : List String) → Variant →
    (debugInfo : Bool) → Answer (Compilation WasmModule)
  complete : SourceHandle → (line column : Int) → Target → ContextId → Answer (List Completion)

namespace Providers

/-- An execution as a reply. -/
def executed (answer : Answer Execution) : Answer Reply :=
  answer.map fun result => .outcome (.execution result)

/-- A compilation as a reply. -/
def compiled {α : Type} (wrap : α → Artifact) (answer : Answer (Compilation α)) : Answer Reply :=
  answer.map fun result => .outcome (.compilation (result.map wrap))

/-- The providers as backends. -/
def backends (providers : Providers) : Backends where
  run := .ready fun files addByteCode arguments =>
    executed (providers.run files addByteCode arguments)
  test := .ready fun files addByteCode => executed (providers.test files addByteCode)
  compile := .ready fun files addClasspath =>
    compiled .classes (providers.compile files addClasspath)
  translateJs := .ready fun files arguments =>
    compiled .script (providers.translateJs files arguments)
  translateWasm := .ready fun files arguments variant debugInfo =>
    compiled .module (providers.translateWasm files arguments variant debugInfo)
  complete := .ready fun file line column target context =>
    (providers.complete file line column target context).map .proposals

end Providers

end Multitarget
