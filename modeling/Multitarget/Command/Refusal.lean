import Multitarget.Console.Output

/-!
# Refusals

A command that cannot do its work refuses with a message for the user and an
exit status. Which faults become refusals, and in what words, depends on what the
command was doing; other faults are passed on.
-/

namespace Multitarget

/-- Why a command does not do its work. -/
structure Refusal where
  message : String
  status : Nat
  deriving DecidableEq, Repr

namespace Refusal

/-- The exit status of a command that did its work. -/
def success : Nat := 0

/-- The exit status where the input is at fault. -/
def userError : Nat := 1

/-- The exit status where a file or a backend is at fault. -/
def systemError : Nat := 2

/-- A project file that is not there. -/
def missingProject (path : String) : Refusal :=
  ⟨"File not found: " ++ path ++ "\n\nUse --project to specify the project file.", systemError⟩

/-- A project file that does not describe a project. -/
def ofProject (path : String) : Fault → Option Refusal
  | .yaml (.mismatch _ _) _ => none
  | .yaml error file =>
    some ⟨"Invalid YAML in " ++ path ++ ": " ++ error.message file, userError⟩
  | .json (.longNumeral _) _ => none
  | .json failure text =>
    some ⟨"Invalid JSON in " ++ path ++ ": " ++ failure.message text, userError⟩
  | .invalid issues =>
    some ⟨"Invalid project in " ++ path ++ ":\n" ++ Schema.report issues, userError⟩
  | _ => none

/-- A failure of the library. -/
def ofFailure (fault : Fault) : Option Refusal :=
  fault.failure?.map fun failure => ⟨failure.message, userError⟩

/-- Artifacts that cannot be written below an output directory. -/
def ofOutput (output : String) (fault : Fault) : Option Refusal :=
  if fault.isDenied then some ⟨"Cannot write to: " ++ output, systemError⟩
  else
    match fault.failure? with
    | some (.persistence path reason) =>
      some ⟨(Failure.persistence path reason).message, systemError⟩
    | some failure => some ⟨failure.message, userError⟩
    | none =>
      if fault.isSystem then
        some ⟨"Cannot write to " ++ output ++ ": " ++ fault.message, systemError⟩
      else none

end Refusal

/-- An operation that may be refused. -/
abbrev Attempt := ExceptT Refusal Action

namespace Attempt

/-- Runs an action; faults that can be explained become refusals. -/
def explaining {α : Type} (explain : Fault → Option Refusal) (action : Action α) : Attempt α := do
  match ← Action.observe action with
  | .ok value => return value
  | .error fault =>
    match explain fault with
    | some refusal => throw refusal
    | none => Action.resume (.error fault)

end Attempt

end Multitarget
