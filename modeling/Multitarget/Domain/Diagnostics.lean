import Multitarget.Json.Document
import Multitarget.Schema.Record

/-!
# Diagnostics

What a backend has to say about source files: messages with a severity and,
where it is known, an interval of zero-based positions. They are kept by file
name, in the order in which files and messages were reported.
-/

namespace Multitarget

open Schema (Checked Field)
open Json (Document)

/-- How grave a diagnostic is. -/
inductive Severity where
  | info
  | warning
  | error
  deriving DecidableEq, Repr

namespace Severity

/-- All severities. -/
def all : List Severity := [.info, .warning, .error]

/-- The name of a severity. -/
def name : Severity → String
  | .info => "INFO"
  | .warning => "WARNING"
  | .error => "ERROR"

end Severity

/-- A zero-based position in a source file. -/
structure Position where
  line : Nat
  column : Nat
  deriving DecidableEq, Repr

namespace Position

/-- Reads a position. -/
def check : Value → Checked Position :=
  Schema.record "TextPosition" [.simple "line", .simple "ch"] fun entries =>
    Position.mk
      <$> Schema.required entries (.simple "line") Schema.nat
      <*> Schema.required entries (.simple "ch") Schema.nat

/-- The wire form of a position. -/
def toDocument (position : Position) : Document :=
  .object [("line", .int position.line), ("ch", .int position.column)]

end Position

/-- The source between two positions. -/
structure Interval where
  start : Position
  stop : Position
  deriving DecidableEq, Repr

namespace Interval

/-- Reads an interval. -/
def check : Value → Checked Interval :=
  Schema.record "TextInterval" [.simple "start", .simple "end"] fun entries =>
    Interval.mk
      <$> Schema.required entries (.simple "start") Position.check
      <*> Schema.required entries (.simple "end") Position.check

/-- The wire form of an interval. -/
def toDocument (interval : Interval) : Document :=
  .object [("start", interval.start.toDocument), ("end", interval.stop.toDocument)]

/-- The interval between two positions given by number; the first position that is none decides
the issues. -/
def ofNumbers (startLine startColumn stopLine stopColumn : Value) : Checked Interval :=
  let position (line column : Value) : Checked Position :=
    Position.check (.map [(.text "line", line), (.text "ch", column)])
  (position startLine startColumn).bind fun start =>
    (position stopLine stopColumn).map fun stop => ⟨start, stop⟩

end Interval

/-- A message about a source file. -/
structure Diagnostic where
  interval : Option Interval
  message : String
  severity : Severity
  className : Option String
  deriving DecidableEq, Repr

namespace Diagnostic

/-- Whether the message reports an error. -/
def isError (diagnostic : Diagnostic) : Bool :=
  diagnostic.severity == .error

/-- The severities by name. -/
def severityChoices : List (String × Severity) :=
  Severity.all.map fun severity => (severity.name, severity)

/-- The fields of a diagnostic. -/
def fields : List Field :=
  [.simple "interval", .simple "message", .simple "severity", ⟨"className", "class_name"⟩]

/-- Reads a diagnostic. -/
def check : Value → Checked Diagnostic :=
  Schema.record "ErrorDescriptor" fields fun entries =>
    Diagnostic.mk
      <$> Schema.defaulted entries (.simple "interval") none (Schema.optional Interval.check)
      <*> Schema.required entries (.simple "message") Schema.text
      <*> Schema.required entries (.simple "severity") (Schema.choice severityChoices)
      <*> Schema.defaulted entries ⟨"className", "class_name"⟩ none (Schema.optional Schema.text)

/-- The wire form of a diagnostic. -/
def toDocument (diagnostic : Diagnostic) : Document :=
  .object [
    ("interval", match diagnostic.interval with
      | none => .null
      | some interval => interval.toDocument),
    ("message", .text diagnostic.message),
    ("severity", .text diagnostic.severity.name),
    ("className", .ofText? diagnostic.className)]

end Diagnostic

/-- Diagnostics by file name. -/
structure Diagnostics where
  byFile : Keyed (List Diagnostic)
  deriving DecidableEq, Repr

namespace Diagnostics

/-- No diagnostics and no file names. -/
def empty : Diagnostics := ⟨.empty⟩

instance : Inhabited Diagnostics := ⟨empty⟩

/-- The diagnostics of every file, file after file. -/
def all (diagnostics : Diagnostics) : List Diagnostic :=
  diagnostics.byFile.values.flatten

/-- The diagnostics that are errors. -/
def errors (diagnostics : Diagnostics) : List Diagnostic :=
  diagnostics.all.filter Diagnostic.isError

/-- Whether some diagnostic is an error. -/
def hasErrors (diagnostics : Diagnostics) : Bool :=
  diagnostics.all.any Diagnostic.isError

/-- Whether some file has a diagnostic. -/
def isPresent (diagnostics : Diagnostics) : Bool :=
  diagnostics.byFile.values.any fun list => !list.isEmpty

/-- The number of diagnostics, of one severity or of all. -/
def count (diagnostics : Diagnostics) (severity : Option Severity) : Nat :=
  match severity with
  | none => diagnostics.all.length
  | some severity => diagnostics.all.countP fun diagnostic => diagnostic.severity == severity

/-- The entries of the given file names. -/
def restrictedTo (diagnostics : Diagnostics) (names : List String) : Diagnostics :=
  ⟨diagnostics.byFile.filterKeys fun name => names.contains name⟩

/-- Both diagnostics, those of the second behind those of the first in each file. -/
def mergedWith (first second : Diagnostics) : Diagnostics :=
  ⟨second.byFile.entries.foldl
    (fun merged entry => merged.alter entry.1 fun present => present.getD [] ++ entry.2)
    first.byFile⟩

/-- Reads diagnostics. -/
def check : Value → Checked Diagnostics :=
  Schema.record "CompilerDiagnostics" [.simple "map"] fun entries =>
    Diagnostics.mk
      <$> Schema.defaulted entries (.simple "map") .empty
        (Schema.map (Schema.list Diagnostic.check))

/-- The wire form of diagnostics. -/
def toDocument (diagnostics : Diagnostics) : Document :=
  .object [("map", .object (diagnostics.byFile.entries.map fun (name, list) =>
    (name, .array (list.map Diagnostic.toDocument))))]

end Diagnostics

end Multitarget
