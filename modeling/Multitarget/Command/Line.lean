import Multitarget.Command.Operation
import Multitarget.Session.Trace

/-!
# Command lines

A command line names a command and sets what it is told. Whatever happens, it ends
with a report: the exit status, and what was written to the output and to the
error stream.
-/

namespace Multitarget

/-- How a command line ended. -/
structure CommandReport where
  status : Nat
  output : String
  errors : String
  /-- A fault that nothing dealt with. -/
  uncaught : Option Fault

namespace CommandLine

/-- The name of the program. -/
def program : String := "kompile"

/-- The version of the program. -/
def programVersion : String := "0.1.0"

/-- What can follow the name of a command. -/
def commandPattern : String := "[OPTIONS]"

/-- What can follow the name of the program. -/
def programPattern : String := "[OPTIONS] COMMAND [ARGS]..."

/-- The number of the failure that says that nobody reads the output any more. -/
def closedPipe : Int := 32

/-- The report of a misuse. -/
def misused (name pattern : String) (misuse : Misuse) : CommandReport :=
  ⟨Refusal.systemError, "", misuse.report name pattern, none⟩

/-- The lines that describe settings. -/
def settingLines (settings : List Setting) : String :=
  String.join (settings.map fun setting =>
    "  " ++ ", ".intercalate setting.names ++ "  " ++ setting.description ++ "\n")

/-- The report of help: what can follow the name, and the settings. -/
def helped (name pattern : String) (settings : List Setting) (more : String) : CommandReport :=
  ⟨Refusal.success, "Usage: " ++ name ++ " " ++ pattern ++ "\n\nOptions:\n" ++
    settingLines settings ++ more, "", none⟩

/-- The report of a fault that nothing explained, after some output. An interrupt ends a command
without more, and so does a closed pipe; a request to exit says what it has to say. -/
def faulted (output : String) (fault : Fault) : CommandReport :=
  match fault with
  | .raised exception =>
    match exception.nature with
    | .interrupt _ => ⟨Refusal.userError, output, "\nAborted!\n", none⟩
    | .exit none => ⟨Refusal.success, output, "", none⟩
    | .exit (some text) => ⟨Refusal.userError, output ++ text ++ "\n", "", none⟩
    | .system failure =>
      if failure.number = some closedPipe then ⟨Refusal.userError, output, "", none⟩
      else ⟨Refusal.userError, output, "", some fault⟩
    | _ => ⟨Refusal.userError, output, "", some fault⟩
  | _ => ⟨Refusal.userError, output, "", some fault⟩

/-- What was written to the console. -/
def written (session : Session) : String := String.join (Trace.printed session.trace)

/-- Runs an action on a session whose trace starts anew. -/
def perform {α : Type} (session : Session) (action : Action α) : Except Fault α × Session :=
  action.run.run { session with trace := [] }

/-- The report of words that a command cannot use. A path that cannot be one ends the command like
the fault of a file. -/
def refused (name : String) : Misuse → CommandReport
  | .noPath => faulted "" (.file .nullCharacter)
  | misuse => misused name commandPattern misuse

/-- Runs a command with words; a refusal is written to the console, or else to the error stream as
`program` tells errors. The session keeps the trace of the command. -/
def runCommand (surroundings : Surroundings) (onConsole : Bool) (command : Command)
    (words : List String) (session : Session) : CommandReport × Session :=
  let name := program ++ " " ++ command.name
  let session := { session with trace := [] }
  match Arguments.ofWords command words with
  | .error misuse => (refused name misuse, session)
  | .ok arguments =>
    if arguments.help then (helped name commandPattern command.settings "", session)
    else
      match perform session (Operation.ofCommand command surroundings arguments).run with
      | (.error fault, session) => (faulted (written session) fault, session)
      | (.ok (.ok status), session) => (⟨status, written session, "", none⟩, session)
      | (.ok (.error refusal), session) =>
        let output := written session
        if onConsole then
          match perform session (Console.printRefusal refusal.message) with
          | (.ok (), shown) => (⟨refusal.status, output ++ written shown, "", none⟩, session)
          | (.error fault, _) => (faulted output fault, session)
        else (⟨refusal.status, output, "Error: " ++ refusal.message ++ "\n", none⟩, session)

/-- The commands with their names, as help lists them. -/
def commandLines : String :=
  "\nCommands:\n" ++ String.join (Command.all.map fun command => "  " ++ command.name ++ "\n")

/-- Runs a command line. Of the settings before the command those that ask for the version or for
help are answered, the first of them, and no command runs. -/
def run (surroundings : Surroundings) (words : List String) (session : Session) :
    CommandReport × Session :=
  let misused (misuse : Misuse) : CommandReport × Session :=
    (misused program programPattern misuse, { session with trace := [] })
  match Arguments.parse Setting.general true words with
  | .error misuse => misused misuse
  | .ok (choices, rest) =>
    let asked := (choices.map Prod.fst).find? fun setting => setting ≠ .noColor
    match asked, rest with
    | some .version, _ =>
      (⟨Refusal.success, program ++ ", version " ++ programVersion ++ "\n", "", none⟩,
        { session with trace := [] })
    | some _, _ =>
      (helped program programPattern Setting.general commandLines, { session with trace := [] })
    | none, [] => misused .noCommand
    | none, name :: words =>
      match Command.ofName? name with
      | some command => runCommand surroundings false command words session
      | none => misused (.unknownCommand name)

/-- The files that a command line may read: the project, and where a configuration may be. -/
def inputs (setting : Option String) (words : List String) : List FilePath :=
  match Arguments.parse Setting.general true words with
  | .ok (_, name :: words) =>
    match (Command.ofName? name).map fun command => Arguments.ofWords command words with
    | some (.ok arguments) =>
      let searched := Loading.searchDirectories.map fun directory =>
        directory.append ⟨"", [Loading.configurationName]⟩
      FilePath.ofText arguments.project ::
        ((arguments.config.toList ++ setting.toList).map FilePath.ofText ++ searched)
    | _ => []
  | _ => []

end CommandLine

end Multitarget
