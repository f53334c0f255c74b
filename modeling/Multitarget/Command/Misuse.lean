import Multitarget.Command.Setting
import Multitarget.Text.Quoted

/-!
# Misuse

What can be wrong with a command line, and how the user is told.
-/

namespace Multitarget

/-- What is wrong with a command line. -/
inductive Misuse where
  /-- There is no setting of the name; others have similar names. -/
  | unknown (name : String) (similar : List String)
  /-- The setting needs a value and has none. -/
  | valueMissing (name : String)
  /-- The setting takes no value and has one. -/
  | valueGiven (name : String)
  /-- The value is no number. -/
  | noNumber (setting : Setting) (value : String)
  /-- The value is none of those that can be chosen. -/
  | noChoice (setting : Setting) (value : String) (choices : List String)
  /-- The value is no path, since it holds a null character. -/
  | noPath
  /-- The setting is required and not given. -/
  | missing (setting : Setting)
  /-- There are words that belong to no setting. -/
  | surplus (words : List String)
  /-- No command is given. -/
  | noCommand
  /-- There is no command of the name. -/
  | unknownCommand (name : String)
  deriving DecidableEq, Repr

namespace Misuse

/-- Similar names as a question, several in the order of their characters. -/
def question : List String → String
  | [] => ""
  | [name] => " Did you mean " ++ Text.quoted name ++ "?"
  | names =>
    " (Did you mean one of: " ++
      ", ".intercalate ((names.mergeSort fun first second => first ≤ second).map Text.quoted) ++ "?)"

/-- The wording of a misuse. -/
def message : Misuse → String
  | .unknown name similar => "No such option " ++ Text.quoted name ++ "." ++ question similar
  | .valueMissing name => "Option " ++ Text.quoted name ++ " requires an argument."
  | .valueGiven name => "Option " ++ Text.quoted name ++ " does not take a value."
  | .noNumber setting value =>
    "Invalid value for " ++ setting.hint ++ ": " ++ Text.quoted value ++ " is not a valid integer."
  | .noChoice setting value choices =>
    "Invalid value for " ++ setting.hint ++ ": " ++ Text.quoted value ++ " is not one of " ++
      ", ".intercalate (choices.map Text.quoted) ++ "."
  | .noPath => "embedded null byte"
  | .missing setting => "Missing option " ++ setting.hint ++ "."
  | .surplus [word] => "Got unexpected extra argument (" ++ word ++ ")"
  | .surplus words => "Got unexpected extra arguments (" ++ " ".intercalate words ++ ")"
  | .noCommand => "Missing command."
  | .unknownCommand name => "No such command " ++ Text.quoted name ++ "."

/-- Whether the usage is told with the misuse. -/
def tellsUsage : Misuse → Bool
  | .valueMissing _ => false
  | .valueGiven _ => false
  | _ => true

/-- What the user is told; `program` is what was invoked and `pattern` what can follow it. -/
def report (program pattern : String) (misuse : Misuse) : String :=
  let usage :=
    if misuse.tellsUsage then
      "Usage: " ++ program ++ " " ++ pattern ++ "\nTry '" ++ program ++ " --help' for help.\n\n"
    else ""
  usage ++ "Error: " ++ misuse.message ++ "\n"

end Misuse

end Multitarget
