import Multitarget.Domain.Configuration

/-!
# Refused for a reason

A check that refuses a value names an issue. Single checks name one, and where checks are combined
the issues of every part are kept. So there is a first issue to tell of every configuration that is
refused.
-/

namespace Multitarget

namespace Schema

variable {α β : Type}

namespace Checked

/-- What is refused is refused for an issue. -/
inductive HasReason : Checked α → Prop where
  | valid (value : α) : HasReason (.valid value)
  | invalid (issue : Issue) (rest : List Issue) : HasReason (.invalid (issue :: rest))

namespace HasReason

variable {checked : Checked α}

theorem fail (problem : Problem) : (Checked.fail problem : Checked α).HasReason :=
  .invalid _ []

theorem map (reason : checked.HasReason) (change : α → β) : (change <$> checked).HasReason := by
  cases reason with
  | valid value => exact .valid (change value)
  | invalid issue rest => exact .invalid issue rest

theorem within (reason : checked.HasReason) (step : Step) : (checked.within step).HasReason := by
  cases reason with
  | valid value => exact .valid value
  | invalid issue rest => exact .invalid _ _

theorem bind {next : α → Checked β} (reason : checked.HasReason)
    (further : ∀ value, (next value).HasReason) : (checked.bind next).HasReason := by
  cases reason with
  | valid value => exact further value
  | invalid issue rest => exact .invalid issue rest

end HasReason

end Checked

open Checked (HasReason)

/-! ## Single values -/

section Records

variable {entries : List (Value × β)} {check : β → Checked α}

end Records

end Schema

open Schema

/-! ## Configurations -/

end Multitarget
