import Multitarget.Domain.Fault
import Multitarget.Domain.Outcome

/-!
# Writing results

Records inside each other are written down to a depth. Only chains of exceptions
reach it: those that were read are short enough, those that were raised need not
be.
-/

namespace Multitarget.Wire

open Json (Document)

/-- The document of something that holds a chain of exceptions, if with `around` records around it
the chain is not too long. -/
def within (around : Nat) (chain : Option ExceptionDescription) (document : Document) :
    Except Fault Document :=
  let depth := around + (chain.map ExceptionDescription.length).getD 0
  if depth ≤ ExceptionDescription.nestingLimit then .ok document else .error .unwritable

/-- The wire form of a description. -/
def ofException (description : ExceptionDescription) : Except Fault Document :=
  within 0 (some description) description.toDocument

/-- The wire form of an execution. -/
def ofExecution (result : Execution) : Except Fault Document :=
  within 1 result.exception result.toDocument

/-- The wire form of an outcome. -/
def ofOutcome : Outcome → Except Fault Document
  | .execution result => ofExecution result
  | .compilation result => .ok (result.toDocument Artifact.toDocument)

end Multitarget.Wire
