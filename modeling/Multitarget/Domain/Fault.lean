import Multitarget.Console.Markup
import Multitarget.Domain.Exception
import Multitarget.Domain.Target
import Multitarget.Files.Access
import Multitarget.Json.Reader
import Multitarget.Yaml.Document

/-!
# Faults

How an operation can end other than with its result: a failure that the library
reports, an exception that a backend raised, or what goes wrong with files and
their content.
-/

namespace Multitarget

open Json (Document)

/-- How an operation ends without a result. -/
inductive Fault where
  /-- A backend, or what makes one, raised an exception. -/
  | raised (exception : Exception)
  /-- The library reports a failure. -/
  | failure (failure : Failure)
  /-- A file cannot be used. -/
  | file (fault : FileFault)
  /-- There is no file to load. -/
  | missingFile (path : String)
  /-- A file is not UTF-8. -/
  | undecodable (failure : Text.Utf8.Malformed)
  /-- A text is no JSON document. -/
  | json (failure : Json.Failure) (text : List Char)
  /-- The text of a file is no YAML document. -/
  | yaml (error : Yaml.Error) (file : String)
  /-- A document does not fit the record read from it. -/
  | invalid (issues : List Schema.Issue)
  /-- No version is given and none is in effect. -/
  | noVersion
  /-- A reference names no module. -/
  | emptyModule
  /-- A reference names a module relative to none. -/
  | relativeModule (name : String)
  /-- The target is not of the WebAssembly family. -/
  | notWasm (target : Target)
  /-- An answer of another kind than it is used as: the name of its kind, and what it lacks. -/
  | unsuitable (kind part : String)
  /-- A result holds too many records inside each other. -/
  | unwritable
  /-- A whole number has a longer numeral than is written. -/
  | longNumeral
  /-- A line for the console is no markup. -/
  | markup (error : Console.Markup.Error)

namespace Fault

/-- The failure of the library that a fault is, raised by a backend or not. -/
def failure? : Fault → Option Failure
  | .failure known => some known
  | .raised exception =>
    match exception.nature with
    | .failure known => some known
    | _ => none
  | _ => none

/-- Whether a fault is a failure of the operating system. -/
def isSystem : Fault → Bool
  | .file (.obstacle _ _) => true
  | .missingFile _ => true
  | .raised exception =>
    match exception.nature with
    | .system _ => true
    | _ => false
  | _ => false

/-- Whether a fault says that permission was refused. -/
def isDenied : Fault → Bool
  | .raised exception =>
    match exception.nature with
    | .system known => known.denied
    | _ => false
  | _ => false

/-- Whether a fault can be contained: all but a request to stop. -/
def isContained : Fault → Bool
  | .raised exception => exception.isFault
  | _ => true

/-- The wording of a fault of a file. -/
def fileMessage : FileFault → String
  | .obstacle obstacle path =>
    "[Errno " ++ toString obstacle.number ++ "] " ++ obstacle.reason ++ ": " ++ Text.quoted path
  | .nullCharacter => "embedded null byte"

/-- The wording of a fault. -/
def message : Fault → String
  | .raised exception => exception.text
  | .failure known => known.message
  | .file known => fileMessage known
  | .missingFile path => "File not found: " ++ path
  | .undecodable known => known.message
  | .json known text => known.message text
  | .yaml error source => error.message source
  | .invalid issues => Schema.report issues
  | .noVersion => "No VersionInfo given and none set process-wide"
  | .emptyModule => "Empty module name"
  | .relativeModule name =>
    "the 'package' argument is required to perform a relative import for '" ++ name ++ "'"
  | .notWasm target => "Not a WASM project type: " ++ target.name
  | .unsuitable kind part => "'" ++ kind ++ "' object has no attribute '" ++ part ++ "'"
  | .unwritable => "Maximum serialization depth exceeded"
  | .longNumeral => Text.longNumberMessage
  | .markup error => error.message

/-- What a failure tells besides its wording. -/
def failureDetails : Failure → List (String × Document)
  | .persistence path _ => [("path", .text path)]
  | .configuration _ path place =>
    [("file_path", .ofText? path), ("field_path", .ofText? place)]
  | .backendLoad reference field =>
    [("file_path", .null), ("field_path", .ofText? field), ("reference", .text reference)]
  | .completionPosition _ line column => [("line", .int line), ("character", .int column)]
  | _ => []

/-- What an issue tells: its kind, where it is, and its wording. -/
def issueDocument (issue : Schema.Issue) : Document :=
  .object [
    ("type", .text issue.problem.code),
    ("loc", .array (issue.location.map fun
      | .name name => .text name
      | .index index => .int index)),
    ("msg", .text issue.problem.message)]

/-- What a fault tells besides its wording. -/
def details (fault : Fault) : List (String × Document) :=
  match fault with
  | .invalid issues => [("errors", .array (issues.map issueDocument))]
  | _ => (fault.failure?.map failureDetails).getD []

end Fault

end Multitarget
