import Multitarget.Proofs.Command.Dump
import Multitarget.Proofs.Command.Shown

/-!
# Exit statuses

A run, a translation and a compilation end with a status that tells how they came out, if what
they have to say can be written. The name and the message of an exception, and the path of a
compilation, are written without being escaped: where they are no markup that can be read, the
command line ends with a fault in place of its status.
-/

namespace Multitarget

open Action Console Operation

/-! ## Conclusions -/

theorem Console.marked_unraised (mark : Mark) (markup : List Char) (exception : Exception) :
    marked mark markup ≠ .error (.raised exception) := by
  rw [marked]
  split <;> (intro same; cases same)

namespace Operation

variable {result : Execution}

theorem exceptionText_unraised (result : Execution) (exception : Exception) :
    exceptionText result ≠ .error (.raised exception) := by
  rw [exceptionText]
  split
  · intro same
    cases same
  · exact marked_unraised _ _ exception

theorem presentCompilation_tells (output : FilePath) (response : CompileResponse) :
    Tells (presentCompilation output response)
      (marked (if response.success then .success else .failure)
        (whereabouts output response.success))
      (.ok (if response.success then Refusal.success else Refusal.userError)) := by
  cases succeeded : response.success with
  | true =>
      simp only [presentCompilation, succeeded, if_true]
      exact (printMarked_tells .success _).then_quiet (prints_pure _)
  | false =>
      simp only [presentCompilation, succeeded, Bool.false_eq_true, if_false]
      exact (printMarked_tells .failure _).then_quiet (prints_pure _)

end Operation

namespace Command

/-- What decides whether a command can write a response: its document, or a line of markup that is
not escaped. A fault stands for what cannot be written. -/
def told (arguments : Arguments) : Response → Except Fault (List Char)
  | .compiled response =>
      marked (if response.success then .success else .failure)
        (whereabouts (FilePath.ofText arguments.output) response.success)
  | .outcome (.execution result) =>
      if arguments.asJson then Wire.ofExecution result >>= spelled else exceptionText result
  | _ => .ok []

variable {command : Command} {arguments : Arguments} {response : Response} {status : Nat}

end Command

namespace CommandLine

theorem concluded_error {output : String} {fault : Fault}
    (unraised : ∀ exception, fault ≠ .raised exception) :
    concluded output (.error fault) = ⟨Refusal.userError, output, "", some fault⟩ := by
  cases fault with
  | raised exception => exact absurd rfl (unraised exception)
  | _ => rfl

end CommandLine

namespace Refusal

end Refusal

namespace Invocation

variable {invocation : Invocation} {response : Response} {status : Nat} {fault : Fault}
  {told : Except Fault (List Char)}

end Invocation

end Multitarget
