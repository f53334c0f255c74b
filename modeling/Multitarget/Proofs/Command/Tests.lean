import Multitarget.Proofs.Command.Dump
import Multitarget.Proofs.Command.Shown
import Multitarget.Proofs.Executor.Verdict

/-!
# Testing a project

What the runner of tests gives back decides the status that a test ends with, whether it is told as
text or as JSON. As text each test is one entry behind a mark that says whether it passed, and
entries follow one another as the tests do.
-/

namespace Multitarget

open Action Console

/-! ## Entries -/

/-- The mark of a test that passed, or did not. -/
def TestOutcome.mark (outcome : TestOutcome) : Mark :=
  if outcome.status = .ok then .success else .failure

/-- What is told of a test behind its name: nothing if it passed. -/
def TestOutcome.remark (outcome : TestOutcome) : List Char :=
  if outcome.status = .ok then [] else ": ".toList ++ outcome.status.name.toList

theorem TestOutcome.noBracket_remark (outcome : TestOutcome) :
    '[' ∉ outcome.remark ∧ ']' ∉ outcome.remark := by
  rw [remark]
  cases outcome.status <;> decide

namespace Operation

/-- What is written of a test: its mark, the name of the test, and how it ended unless it passed. -/
def testEntry (outcome : TestOutcome) : List Char :=
  let name := (outcome.className ++ "." ++ outcome.methodName).toList
  layout false (outcome.mark.sign :: ' ' :: (Markup.passed name ++ outcome.remark))

theorem testEntry_starts (outcome : TestOutcome) :
    ∃ line, testEntry outcome = outcome.mark.sign :: line :=
  layout_sign outcome.mark false _

/-- A test can be told whatever its name holds. -/
theorem printTest_prints (outcome : TestOutcome) :
    (printTest outcome).Prints (.ok ()) (testEntry outcome ++ ['\n']) := by
  have told := printMarked_escape_append outcome.mark
    (outcome.className ++ "." ++ outcome.methodName).toList outcome.noBracket_remark.1
    outcome.noBracket_remark.2
  by_cases passed : outcome.status = .ok
  · simpa [printTest, testEntry, TestOutcome.mark, TestOutcome.remark, passed] using told
  · simpa [printTest, testEntry, TestOutcome.mark, TestOutcome.remark, passed] using told

/-- What tests are written as: each as an entry, class by class. -/
def testText (result : Execution) : List Char :=
  (testOutcomes result).flatMap fun outcome => testEntry outcome ++ ['\n']

/-- Tests that were run are written one by one; else the diagnostics are. -/
theorem presentTest_prints (result : Execution) :
    (presentTest false (.execution result)).Prints (.ok (testStatus result))
      (if result.status = .compiled then testText result
        else diagnosticText result.diagnostics) := by
  rw [presentTest_eq]
  simp only [Bool.false_eq_true, if_false]
  by_cases compiled : result.status = .compiled
  · simp only [if_pos compiled]
    exact (prints_forM _ printTest_prints).then_quiet (prints_pure _)
  · simp only [if_neg compiled]
    exact (printDiagnostics_prints result.diagnostics).then_quiet (prints_pure _)

end Operation

/-! ## Results of runners -/

namespace Invocation

open Operation

variable {invocation : Invocation} {result : Execution}

end Invocation

end Multitarget
