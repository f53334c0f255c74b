import Multitarget.Console.Layout
import Multitarget.Json.Printer
import Multitarget.Json.Reader
import Multitarget.Session.Basic

/-!
# Output

What commands write to the console: lines of markup behind a mark that tells
success, failure and warning apart, the output of programs, and JSON. JSON is
encoded on one line, read again, and written with an item to a line, without
dividing its lines.
-/

namespace Multitarget.Console

/-- Writes a text. -/
def write (text : List Char) : Action Unit :=
  Action.emit (.printed (String.ofList text))

/-- Writes a markup as a line; `whole` leaves it undivided. -/
def printLine (whole : Bool) (markup : List Char) : Action Unit :=
  match Markup.plain whole markup with
  | .ok text => write (text ++ ['\n'])
  | .error error => throw (.markup error)

/-- What a line tells. -/
inductive Mark where
  | success
  | failure
  | warning
  deriving DecidableEq, Repr

/-- The markup of a mark. -/
def Mark.markup : Mark → List Char
  | .success => "[green]✓[/green] ".toList
  | .failure => "[red]✗[/red] ".toList
  | .warning => "[yellow]⚠[/yellow] ".toList

/-- Writes a line of markup behind a mark. -/
def printMarked (mark : Mark) (markup : List Char) : Action Unit :=
  printLine false (mark.markup ++ markup)

/-- Writes a text behind the mark of a failure, without dividing it. -/
def printRefusal (message : String) : Action Unit :=
  printLine true (Mark.failure.markup ++ Markup.escape message.toList)

/-- Writes the output of a program. -/
def printProgram (text : List Char) : Action Unit :=
  write (layout false text)

/-- Writes a document, if its numbers can be written: what is read of it on one line is laid out
with indentation. -/
def printDocument (document : Json.Document) : Action Unit :=
  if Json.isWritable document then
    let encoded := Json.printLine true document
    match Json.read encoded with
    | .ok decoded => write (layout true (Json.printIndented 0 decoded) ++ ['\n'])
    | .error failure => throw (.json failure encoded)
  else throw .longNumeral

/-- Writes a document unless there is none. -/
def printWritten (document : Except Fault Json.Document) : Action Unit := do
  printDocument (← Action.resume document)

end Multitarget.Console
