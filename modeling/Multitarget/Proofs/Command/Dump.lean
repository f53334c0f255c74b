import Multitarget.Proofs.Command.Invocation
import Multitarget.Proofs.Domain.PlainDocument

/-!
# Responses written as JSON

A command that writes JSON writes one document, and reading what was written gives that document
back. Where the response has no document that can be written, nothing is written at all.
-/

namespace Multitarget

open Action (Prints)

/-! ## Documents of responses -/

/-- The document that a response is. Proposals are what a list holds; anything else has no items
that could be written. -/
def Response.dump : Response → Except Fault Json.Document
  | .outcome made => Wire.ofOutcome made
  | .compiled answer => .ok answer.toDocument
  | .proposals (.proposals items) => .ok (.array (items.map Completion.toDocument))
  | .proposals (.outcome _) => .error (.unsuitable "tuple" "model_dump")
  | .diagnostics found => .ok found.toDocument

/-- The document that a command writes of a response. A test looks at the status of its result
first. -/
def Command.dump : Command → Response → Except Fault Json.Document
  | .test, .outcome (.compilation result) =>
      .error (.unsuitable (Outcome.compilation result).typeName "status")
  | _, response => response.dump

theorem CompileResponse.isPlain (response : CompileResponse) :
    Json.IsPlain response.toDocument :=
  ⟨by simp, trivial, trivial⟩

namespace Operation

open Action Console

variable {outcome : Outcome} {result : Execution}

/-- The status that tests end with: that of a failing system, that of a project which does not
compile or some test of which did not pass, or that of success. -/
def testStatus (result : Execution) : Nat :=
  if result.status = .internalError then Refusal.systemError
  else if result.status = .notCompiled ∨ ∃ outcome ∈ testOutcomes result, outcome.status ≠ .ok then
    Refusal.userError
  else Refusal.success

theorem testStatus_of_compiled (compiled : result.status = .compiled) :
    testStatus result = if (testOutcomes result).all (·.status = .ok) then Refusal.success
      else Refusal.userError := by
  have passed : (testOutcomes result).all (·.status = .ok) = true ↔
      ¬ ∃ outcome ∈ testOutcomes result, outcome.status ≠ .ok := by simp
  by_cases failing : ∃ outcome ∈ testOutcomes result, outcome.status ≠ .ok
  · simp [testStatus, compiled, passed, failing]
  · simp [testStatus, compiled, passed, failing]

theorem testStatus_of_ne (uncompiled : result.status ≠ .compiled) :
    testStatus result = statusOf result := by
  cases known : result.status with
  | compiled => exact absurd known uncompiled
  | notCompiled => simp [testStatus, statusOf, known]
  | internalError => simp [testStatus, statusOf, known]

/-- What is written of tests does not decide about their status. -/
theorem presentTest_eq (asJson : Bool) (result : Execution) :
    presentTest asJson (.execution result) = (do
      if asJson then Console.printWritten (Wire.ofExecution result)
      else if result.status = .compiled then (testOutcomes result).forM printTest
      else printDiagnostics result.diagnostics
      return testStatus result) := by
  simp only [presentTest, executionOf, pure_bind]
  by_cases compiled : result.status = .compiled
  · simp only [if_pos compiled, testStatus_of_compiled compiled]
  · simp only [if_neg compiled, testStatus_of_ne compiled]

theorem presentProposals_tells (reply : Reply) :
    Tells (presentProposals reply) ((Response.proposals reply).dump >>= spelled)
      (.ok Refusal.success) := by
  cases reply with
  | proposals items =>
      have plain := Json.isPlain_array_map Completion.isPlain items
      exact (printDocument_tells plain).then_quiet (prints_pure _)
  | outcome outcome => exact .of_error (prints_throw _).bind_error

theorem presentDiagnostics_tells (diagnostics : Diagnostics) :
    Tells (presentDiagnostics true diagnostics) (spelled diagnostics.toDocument)
      (.ok Refusal.success) :=
  (printDocument_tells diagnostics.isPlain).then_quiet (prints_pure _)

end Operation

namespace Command

open Console

variable {command : Command} {arguments : Arguments} {response : Response}

end Command

namespace Invocation

variable {invocation : Invocation} {response : Response}

end Invocation

end Multitarget
