import Multitarget.Data.Value
import Multitarget.Schema.Issue

/-!
# Checks

The outcome of checking a value: what was read from it, or all issues found.
Checks of several parts are combined so that the issues of every part are
reported, in the order of the parts.
-/

namespace Multitarget.Schema

/-- The outcome of a check. -/
inductive Checked (α : Type) where
  | valid (value : α)
  | invalid (issues : List Issue)
  deriving Repr

namespace Checked

variable {α β : Type}

/-- Changes what was read. -/
def map (change : α → β) : Checked α → Checked β
  | .valid value => .valid (change value)
  | .invalid issues => .invalid issues

/-- Combines two checks; the issues of both are kept. -/
def apply : Checked (α → β) → Checked α → Checked β
  | .valid change, .valid value => .valid (change value)
  | .valid _, .invalid issues => .invalid issues
  | .invalid issues, .valid _ => .invalid issues
  | .invalid issues, .invalid more => .invalid (issues ++ more)

instance : Applicative Checked where
  pure := .valid
  map := map
  seq change value := apply change (value ())

/-- Checks what was read further. -/
def bind (checked : Checked α) (next : α → Checked β) : Checked β :=
  match checked with
  | .valid value => next value
  | .invalid issues => .invalid issues

/-- The check failed at this very place. -/
def fail (problem : Problem) : Checked α := .invalid [⟨[], problem⟩]

/-- The issues are found one step further inside. -/
def within (step : Step) : Checked α → Checked α
  | .valid value => .valid value
  | .invalid issues =>
    .invalid (issues.map fun issue => { issue with location := step :: issue.location })

/-- The outcome as a result. -/
def toExcept : Checked α → Except (List Issue) α
  | .valid value => .ok value
  | .invalid issues => .error issues

/-- Checks every item of a list; the first item has the given index. -/
def items (check : Value → Checked α) (index : Nat) : List Value → Checked (List α)
  | [] => .valid []
  | item :: rest =>
    apply (map List.cons (within (.index index) (check item))) (items check (index + 1) rest)

@[simp] theorem pure_eq (value : α) : (pure value : Checked α) = .valid value := rfl

@[simp] theorem seq_eq (change : Checked (α → β)) (value : Checked α) :
    change <*> value = apply change value := rfl

@[simp] theorem map_eq (change : α → β) (value : Checked α) :
    change <$> value = map change value := rfl

@[simp] theorem map_valid (change : α → β) (value : α) :
    map change (.valid value) = .valid (change value) := rfl

@[simp] theorem apply_valid (change : α → β) (value : α) :
    apply (.valid change) (.valid value) = .valid (change value) := rfl

@[simp] theorem within_valid (step : Step) (value : α) :
    within step (.valid value) = .valid value := rfl

@[simp] theorem bind_valid (value : α) (next : α → Checked β) :
    bind (.valid value) next = next value := rfl

end Checked

end Multitarget.Schema
