import Multitarget.Json.Document

/-!
# Log records

What operations leave in the log: a level, the name of the event and named
values.
-/

namespace Multitarget.Log

/-- How important a record is. -/
inductive Level where
  | debug
  | info
  | warning
  | error
  | critical
  deriving DecidableEq, Repr

/-- The name of a level. -/
def Level.name : Level → String
  | .debug => "debug"
  | .info => "info"
  | .warning => "warning"
  | .error => "error"
  | .critical => "critical"

/-- An event with its values in order. -/
structure Record where
  level : Level
  event : String
  fields : List (String × Json.Document)
  deriving Repr

/-- Fields put after others; a repeated name keeps its place and takes the later value. -/
def putAll (fields later : List (String × Json.Document)) : List (String × Json.Document) :=
  later.foldl (fun fields entry => Json.Document.put entry.1 entry.2 fields) fields

/-- A record as a list of its level, its event and its fields. -/
def Record.toDocument (record : Record) : Json.Document :=
  .array [.text record.level.name, .text record.event, .object (putAll [] record.fields)]

/-- A list of texts as the value of a field. -/
def textList (texts : List String) : Json.Document :=
  .array (texts.map .text)

end Multitarget.Log
