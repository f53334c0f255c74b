import Multitarget.Executor.Backend

/-!
# Scripted backends

Backends that give answers prepared in advance, by the name of the operation.
They take the place of real ones where only the executor is of interest.
-/

namespace Multitarget.Scripted

/-- Prepared answers by the name of the operation, the latest first. -/
abbrev Replies := List (String × Answer Reply)

/-- The answer of an operation; `missing` is raised where none is prepared. -/
def answer (missing : String → Exception) (replies : Replies) (name : String) : Answer Reply :=
  match replies.find? fun entry => entry.1 == name with
  | some (_, reply) => reply
  | none => .error (missing name)

/-- Backends that give prepared answers. -/
def backends (missing : String → Exception) (replies : Replies) : Backends where
  run := .ready fun _ _ _ => answer missing replies "jvm.run"
  test := .ready fun _ _ => answer missing replies "jvm.test"
  compile := .ready fun _ _ => answer missing replies "jvm.compile"
  translateJs := .ready fun _ _ => answer missing replies "js"
  translateWasm := .ready fun _ _ _ _ => answer missing replies "wasm"
  complete := .ready fun _ _ _ _ _ => answer missing replies "completion"

end Multitarget.Scripted
