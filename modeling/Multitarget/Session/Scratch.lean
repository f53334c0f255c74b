import Multitarget.Session.Basic

/-!
# Scratch contexts

A call of a backend happens inside a scratch context with a directory of its
own. The context is released on every way out of the call, and its directory is
taken away.
-/

namespace Multitarget

/-- Where scratch contexts come from. -/
structure ScratchSource where
  /-- The directory that holds the scratch directories, if not the usual one. -/
  base : Option FilePath
  /-- What is raised instead of handing out a context. -/
  refusal : Option Exception

/-- A scratch context. -/
structure Scratch where
  id : ContextId
  directory : FilePath

namespace Scratch

/-- The name of the directory of a context. -/
def directoryName (id : ContextId) : String :=
  "kompile-" ++ String.ofList (Text.hexadecimal 8 id) ++ "-scratch"

/-- Hands out a new context. -/
def acquire (source : ScratchSource) : Action Scratch := do
  if let some exception := source.refusal then throw (.raised exception)
  let session ← get
  let id := session.nextContext
  let base := source.base.getD session.temporary
  let directory := base.append ⟨"", [directoryName id]⟩
  Action.onFiles fun working => FileTree.makeDirectory working directory
  modify fun session => { session with nextContext := id + 1 }
  Action.emit (.opened id)
  Action.log .debug "environment_acquired" []
  return ⟨id, directory⟩

/-- Takes back a context with its directory. -/
def release (scratch : Scratch) : Action Unit := do
  Action.emit (.released scratch.id)
  modify fun session =>
    match session.files.resolve session.working scratch.directory with
    | .present location _ => { session with files := session.files.remove location }
    | _ => session
  Action.log .debug "environment_released" []

/-- Runs an action inside a new context, which is released in any case. -/
def within {α : Type} (source : ScratchSource) (body : ContextId → Action α) : Action α := do
  let scratch ← acquire source
  (body scratch.id).andFinally (release scratch)

end Scratch

end Multitarget
