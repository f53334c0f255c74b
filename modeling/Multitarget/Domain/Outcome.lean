import Multitarget.Domain.Shaping

/-!
# Outcomes

What a call of a backend comes to, whatever it was asked for: an execution, or a
compilation with some kind of artifact. A backend that answers with another kind
than it is asked for is taken at its word as far as that goes.
-/

namespace Multitarget

open Json (Document)

/-- What a compilation produces. -/
inductive Artifact where
  | classes (files : ClassFiles)
  | script (code : String)
  | module (parts : WasmModule)
  deriving DecidableEq, Repr

namespace Artifact

/-- The name of the kind of artifact. -/
def typeName : Artifact → String
  | .classes _ => "JvmClasses"
  | .script _ => "str"
  | .module _ => "WasmTranslationOutput"

/-- The wire form of an artifact. -/
def toDocument : Artifact → Document
  | .classes files => files.toDocument
  | .script code => .text code
  | .module parts => parts.toDocument

end Artifact

/-- What a call of a backend comes to. -/
inductive Outcome where
  | execution (result : Execution)
  | compilation (result : Compilation Artifact)
  deriving Repr

namespace Outcome

/-- The name of the record that the outcome is. -/
def typeName : Outcome → String
  | .execution result => result.kind.name
  | .compilation (.compiled artifact _) => "Compiled[" ++ artifact.typeName ++ "]"
  | .compilation (.notCompiled _) => "NotCompiled"

/-- The diagnostics of the outcome. -/
def diagnostics : Outcome → Diagnostics
  | .execution result => result.diagnostics
  | .compilation result => result.diagnostics

/-- How the call ended. -/
def status : Outcome → Status
  | .execution result => result.status
  | .compilation result => if result.isCompiled then .compiled else .notCompiled

/-- Whether the outcome carries a fault. -/
def hasException : Outcome → Bool
  | .execution result => result.exception.isSome
  | .compilation _ => false

/-- The wire form of an outcome. -/
def toDocument : Outcome → Document
  | .execution result => result.toDocument
  | .compilation result => result.toDocument Artifact.toDocument

/-! ## Shaping -/

/-- The outcome with its diagnostics under names of the project's files; all else stays. -/
def shape (outcome : Outcome) (project : Project) : Outcome :=
  match outcome with
  | .execution result => .execution (result.shape project)
  | .compilation (.compiled artifact diagnostics) =>
    .compilation (.compiled artifact (diagnostics.forProject project))
  | .compilation (.notCompiled diagnostics) =>
    .compilation (.notCompiled (diagnostics.forProject project))

/-- What is logged when an outcome is shaped. -/
def shapeLog (outcome : Outcome) (project : Project) : List Log.Record :=
  outcome.diagnostics.forProjectLog project

/-- The outcome of a compilation as callers get it: with errors nothing counts as produced. What is
no compilation stays as it is, or counts as nothing produced where its diagnostics change. -/
def shapeCompilation (outcome : Outcome) (project : Project) : Outcome :=
  match outcome with
  | .compilation result => .compilation (result.shape project)
  | .execution result =>
    if result.diagnostics.foreignNames project = [] then outcome
    else .compilation (.notCompiled (result.diagnostics.forProject project))

/-- What is logged when the outcome of a compilation is shaped. -/
def shapeCompilationLog (outcome : Outcome) (project : Project) : List Log.Record :=
  match outcome with
  | .compilation result => result.shapeLog project
  | .execution result => result.shapeLog project

end Outcome

end Multitarget
