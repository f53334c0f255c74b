import Multitarget.Domain.Diagnostics
import Multitarget.Text.Lines

/-!
# Reports

Diagnostics as lines of text: the file, the position counted from one where it
is known, the severity and the message.
-/

namespace Multitarget.Report

/-- Where a diagnostic is, behind the file name. -/
def place : Option Interval → List Char
  | none => []
  | some interval =>
    ':' :: (Text.decimal (interval.start.line + 1)
      ++ ':' :: Text.decimal (interval.start.column + 1))

/-- The line of a diagnostic. -/
def lineChars (file : String) (diagnostic : Diagnostic) : List Char :=
  file.toList ++ place diagnostic.interval ++ ':' :: ' ' :: (diagnostic.severity.name.toList
    ++ ':' :: ' ' :: diagnostic.message.toList)

/-- The line of a diagnostic. -/
def line (file : String) (diagnostic : Diagnostic) : String :=
  String.ofList (lineChars file diagnostic)

/-- Every diagnostic with its file, file after file. -/
def located (diagnostics : Diagnostics) : List (String × Diagnostic) :=
  diagnostics.byFile.entries.flatMap fun (file, list) => list.map fun item => (file, item)

/-- The lines of all diagnostics, file after file. -/
def lines (diagnostics : Diagnostics) : List String :=
  (located diagnostics).map fun (file, diagnostic) => line file diagnostic

/-- The lines of all diagnostics as one text. -/
def render (diagnostics : Diagnostics) : String :=
  "\n".intercalate (lines diagnostics)

end Multitarget.Report
