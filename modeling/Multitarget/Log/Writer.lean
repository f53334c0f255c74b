import Multitarget.Json.Printer
import Multitarget.Log.Record
import Multitarget.Text.Quoted
import Multitarget.Text.UpperCase

/-!
# Writing the log

Log records as lines of text: JSON objects, or colored columns for people. Only
records of at least a given level are written, but all of them must have a line.
-/

namespace Multitarget.Log

open Json (Document)

/-- How much a level weighs. -/
def Level.weight : Level → Nat
  | .debug => 10
  | .info => 20
  | .warning => 30
  | .error => 40
  | .critical => 50

/-- The levels with their names. -/
def Level.all : List Level := [.debug, .info, .warning, .error, .critical]

/-- The level of a name; some have a second name. -/
def Level.ofName? (name : String) : Option Level :=
  match name with
  | "warn" => some .warning
  | "exception" => some .error
  | "fatal" => some .critical
  | _ => Level.all.find? fun level => level.name == name

/-- Why the log cannot be written. -/
inductive Obstacle where
  /-- The setting names no level. -/
  | setting (name : String)
  /-- The setting names the form of a line, which is no level. -/
  | form
  /-- A record has no level. -/
  | method (name : String)
  /-- A field of a record has the name of an argument that every record has. -/
  | doubled (owner argument : String)
  /-- A value cannot follow the columns. -/
  | attachment (value : Document)

/-- The kind of error that an obstacle is. -/
def Obstacle.kind : Obstacle → String
  | .setting _ => "AttributeError"
  | .form => "ValueError"
  | .method _ => "AttributeError"
  | .doubled _ _ => "TypeError"
  | .attachment _ => "TypeError"

/-- The wording of an obstacle. -/
def Obstacle.message : Obstacle → String
  | .setting name => "module 'logging' has no attribute " ++ Text.quoted name
  | .form => "Unknown level: '%(levelname)s:%(name)s:%(message)s'"
  | .method name => "'BoundLogger' object has no attribute " ++ Text.quoted name
  | .doubled owner argument =>
    "BoundLogger." ++ owner ++ "() got multiple values for argument '" ++ argument ++ "'"
  | .attachment value =>
    "can only concatenate str (not \"" ++ value.toValue.typeName ++ "\") to str"

/-- The least weight that is written under a setting. -/
def threshold (setting : String) : Except Obstacle Nat :=
  match Text.upper setting with
  | "NOTSET" => .ok 0
  | "DEBUG" => .ok 10
  | "INFO" => .ok 20
  | "WARN" => .ok 30
  | "WARNING" => .ok 30
  | "ERROR" => .ok 40
  | "FATAL" => .ok 50
  | "CRITICAL" => .ok 50
  | "BASIC_FORMAT" => .error .form
  | name => .error (.setting name)

/-- A record on its way into the log. One that tells of an exception asks for the exception that
is being handled, and there is none. -/
structure Submission where
  record : Record
  ofException : Bool

/-- Arguments of their own that a record has in each of two places. -/
def ownArguments (method : String) : List (String × String) :=
  let owner := if method = "warn" then "warning" else method
  [(owner, "self"), (owner, "event"), ("_proxy_to_logger", "method_name")]

/-- The record of an event that is submitted by the name of a level. -/
def Submission.make (method event : String) (fields : List (String × Document)) :
    Except Obstacle Submission :=
  match Level.ofName? method with
  | none => .error (.method method)
  | some level =>
    match (ownArguments method).find? fun own => fields.any fun field => field.1 == own.2 with
    | some (owner, argument) => .error (.doubled owner argument)
    | none => .ok ⟨⟨level, event, fields⟩, method = "exception"⟩

/-- A source of log records: its name, and fields that belong to all its records. -/
structure Logger where
  name : String
  bound : List (String × Document)

/-- The source that stands for all has a name of its own. -/
def Logger.title (logger : Logger) : String :=
  if logger.name = "" then "root" else logger.name

/-- Fields that ask for the exception that is being handled, or for the stack. No exception is
handled while records are written, and no stack is shown, so they leave nothing behind. -/
def requests : List String := ["exc_info", "stack_info"]

/-- The fields of a record with those that belong to its source. -/
def Logger.fields (logger : Logger) (record : Record) : List (String × Document) :=
  (putAll (putAll [] logger.bound) record.fields).filter fun entry => !requests.contains entry.1

/-! ## Lines of JSON -/

/-- A record as a JSON object on one line: its fields, then the event, the level and the source. -/
def Logger.jsonLine (logger : Logger) (record : Record) : List Char :=
  Json.printLine true (.object (putAll (logger.fields record)
    [("event", .text record.event), ("level", .text record.level.name),
      ("logger", .text logger.title)]))

/-! ## Colored columns -/

/-- The sequence that switches a display attribute of the terminal. -/
def display (code : Nat) : List Char :=
  '\x1b' :: '[' :: (Text.decimal code ++ ['m'])

/-- The sequence that ends all display attributes. -/
def reset : List Char := display 0

/-- The sequence that makes text bright. -/
def bright : List Char := display 1

/-- A text filled up with spaces. -/
def pad (width : Nat) (text : String) : List Char :=
  text.toList ++ List.replicate (width - text.length) ' '

/-- The color of a level: green, yellow or red. -/
def Level.color : Level → Nat
  | .debug => 32
  | .info => 32
  | .warning => 33
  | .error => 31
  | .critical => 31

/-- Characters that a text cannot hold without quotes. -/
def needsQuotes (character : Char) : Bool :=
  character = ' ' || character = '\t' || character = '=' || character = '\r' ||
  character = '\n' || character = '"' || character = '\''

/-- The value of a field for people, without quotes around a text. -/
def bareText : Document → String
  | .text value => value
  | value => value.toValue.display

/-- The value of a field for people, with quotes around a text that needs them. -/
def valueText : Document → String
  | .text value => if value.toList.any needsQuotes then Text.quoted value else value
  | value => value.toValue.display

/-- A field of a record. -/
def fieldColumn (name : String) (value : Document) : List Char :=
  display 36 ++ name.toList ++ reset ++ '=' :: (display 35 ++ (valueText value).toList ++ reset)

/-- A name in brackets. -/
def sourceColumn (name : String) : List Char :=
  '[' :: (reset ++ bright ++ display 34 ++ name.toList ++ reset ++ ']' :: reset)

/-- A time, dimmed. -/
def timeColumn (time : String) : List Char :=
  display 2 ++ time.toList ++ reset

/-- A level in brackets, in its color. -/
def levelColumn (level : Level) : List Char :=
  '[' :: (display level.color ++ bright ++ pad 9 level.name ++ reset ++ [']'])

/-- The name of an event. -/
def eventColumn (event : String) : List Char :=
  bright ++ pad 30 event ++ reset

/-- Fields with a place of their own in a line of columns. -/
def placedFields : List String :=
  ["timestamp", "level", "event", "logger", "logger_name", "stack", "exception"]

/-- The column of a field, if there is such a field. -/
def placedColumn (fields : List (String × Document)) (name : String)
    (column : String → List Char) : List (List Char) :=
  ((fields.find? fun entry => entry.1 == name).map fun entry =>
    column (bareText entry.2)).toList

/-- A record as columns: the time if there is one, the level, the event, the source, and the other
fields in the order of their names. -/
def Logger.columns (logger : Logger) (record : Record) : List (List Char) :=
  let fields := logger.fields record
  let others := (fields.filter fun entry => !placedFields.contains entry.1).mergeSort
    fun first second => first.1 ≤ second.1
  placedColumn fields "timestamp" timeColumn ++
    [levelColumn record.level, eventColumn record.event, sourceColumn logger.title] ++
    placedColumn fields "logger_name" sourceColumn ++
    others.map fun (name, value) => fieldColumn name value

/-- A text that follows the columns on lines of its own, if there is such a field. -/
def attachment (fields : List (String × Document)) (name : String) :
    Except Obstacle (List (List Char)) :=
  match fields.find? fun entry => entry.1 == name with
  | none => .ok []
  | some (_, .null) => .ok []
  | some (_, .text text) => .ok ['\n' :: text.toList]
  | some (_, value) => .error (.attachment value)

/-- What follows the columns of a record: a stack and an exception, with a rule between the two. -/
def attachments (fields : List (String × Document)) : Except Obstacle (List Char) := do
  let stack ← attachment fields "stack"
  let exception ← attachment fields "exception"
  let rule := "\n\n".toList ++ List.replicate 79 '=' ++ ['\n']
  return rule.intercalate (stack ++ exception)

/-- A record as a line of columns. -/
def Logger.columnLine (logger : Logger) (record : Record) : Except Obstacle (List Char) := do
  let rest ← attachments (logger.fields record)
  return " ".toList.intercalate (logger.columns record) ++ rest

/-! ## The log -/

/-- What follows the line of a record that tells of an exception where there is none. -/
def noException : List Char := "\nNoneType: None".toList

/-- A submission as a line, which is empty if it weighs less than the threshold. -/
def Logger.line (logger : Logger) (threshold : Nat) (asJson : Bool) (submission : Submission) :
    Except Obstacle (List Char) := do
  let record := submission.record
  let line ← if asJson then pure (logger.jsonLine record) else logger.columnLine record
  let rest := if submission.ofException then noException else []
  return if threshold ≤ record.level.weight then line ++ rest ++ ['\n'] else []

/-- The log of events under a setting of the level, each event on a line, in JSON or in columns. An
event is the name of a level, its own name and fields. -/
def Logger.write (logger : Logger) (setting : String) (asJson : Bool)
    (events : List (String × String × List (String × Document))) : Except Obstacle String := do
  let threshold ← threshold setting
  let lines ← events.mapM fun (method, event, fields) => do
    logger.line threshold asJson (← Submission.make method event fields)
  return String.ofList lines.flatten

end Multitarget.Log
