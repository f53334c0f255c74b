import Multitarget.Executor.Backend
import Multitarget.Session.Basic

/-!
# Translation

A translator's answer becomes a result: its payload if it compiled, the
description of the exception if it raised one. A request to stop is passed on.
-/

namespace Multitarget.Translation

/-- Calls an operation of a backend: the call is noted, then its answer taken. -/
def call (event : Call) (operation : Operation (Answer Reply)) : Action Reply := do
  match operation with
  | .absent exception => throw (.raised exception)
  | .unfit exception => throw (.raised exception)
  | .ready answer =>
    Action.emit (.called event)
    match answer with
    | .ok reply => return reply
    | .error exception => throw (.raised exception)

/-- The outcome that a reply is. -/
def outcomeOf : Reply → Action Outcome
  | .outcome outcome => return outcome
  | .proposals _ => throw (.unsuitable "list" "compiler_diagnostics")

/-- The variant that a target selects. -/
def variant (target : Target) : Action Variant :=
  match target.variant? with
  | some variant => return variant
  | none => throw (.notWasm target)

/-- A result that describes an exception and carries nothing else. -/
def failed (exception : Exception) (payload : Payload) : Execution :=
  { Execution.empty payload with exception := some (.ofException exception) }

/-- Describes an exception of a translator as a result, after noting it in the log. -/
def contain (exception : Exception) (payload : Payload) (event : String)
    (fields : List (String × Json.Document)) : Action Execution :=
  if exception.isFault then do
    Action.log .error event (("error", .text exception.text) :: fields)
    return failed exception payload
  else throw (.raised exception)

/-- The result of a translator's outcome. `payloadOf` makes a payload of an artifact; `missing` is
the payload where there is none. -/
def resultOf (payloadOf : Artifact → Action Payload) (missing : Payload) (reply : Reply) :
    Action Execution := do
  match ← outcomeOf reply with
  | .compilation (.compiled artifact diagnostics) =>
    return { Execution.empty (← payloadOf artifact) with diagnostics }
  | outcome => return { Execution.empty missing with diagnostics := outcome.diagnostics }

/-- No script. -/
def noScript : Payload := .script none

/-- The payload of a script. -/
def scriptPayload : Artifact → Action Payload
  | .script code => return .script (some code)
  | _ => throw (.invalid [⟨[.name "js_code"], .textType⟩])

/-- Translates to JavaScript. -/
def translateJs (translate : Operation (List SourceHandle → List String → Answer Reply))
    (files : List SourceHandle) (arguments : List String) : Action Execution := do
  let contained (exception : Exception) : Action Execution :=
    contain exception noScript "js_translation_failed" []
  match translate with
  | .absent exception => throw (.raised exception)
  | .unfit exception => contained exception
  | .ready translate =>
    Action.emit (.called (.translateJs files arguments))
    match translate files arguments with
    | .ok reply => resultOf scriptPayload noScript reply
    | .error exception => contained exception

/-- No module. -/
def noModule : Payload := .module none none none none

/-- The payload of a module; its text form is kept on request. -/
def modulePayload (debugInfo : Bool) : Artifact → Action Payload
  | .module module =>
    return .module (some module.script) (some module.instantiation) (some module.binary)
      (if debugInfo then module.textForm else none)
  | artifact => throw (.unsuitable artifact.typeName "js_code")

/-- Translates to WebAssembly. -/
def translateWasm
    (translate : Operation
      (List SourceHandle → List String → Variant → Bool → Answer Reply))
    (files : List SourceHandle) (arguments : List String) (target : Target) (debugInfo : Bool) :
    Action Execution := do
  if let .absent exception := translate then throw (.raised exception)
  let variant ← variant target
  let contained (exception : Exception) : Action Execution :=
    contain exception noModule "wasm_translation_failed" [("target", .text variant.name)]
  match translate with
  | .absent exception => throw (.raised exception)
  | .unfit exception => contained exception
  | .ready translate =>
    Action.emit (.called (.translateWasm files arguments variant debugInfo))
    match translate files arguments variant debugInfo with
    | .ok reply => resultOf (modulePayload debugInfo) noModule reply
    | .error exception => contained exception

end Multitarget.Translation
