/-!
# Failures of the library

The failures that operations of this library report by themselves, each with
what a user needs to know about it. Their wording is safe to show.
-/

namespace Multitarget

/-- A failure that the library reports. -/
inductive Failure where
  /-- Some failure described by its wording. -/
  | general (message : String)
  /-- No backend serves the target, or another family than the operation's does. -/
  | routing (target : String)
  /-- An artifact cannot be written where it says. -/
  | persistence (path reason : String)
  /-- The configuration is missing or not valid. -/
  | configuration (message : String) (filePath fieldPath : Option String)
  /-- A backend reference does not lead to something that can be called. -/
  | backendLoad (reference : String) (fieldPath : Option String)
  /-- Another version is in effect. -/
  | versionAlreadySet (message : String)
  /-- A completion position lies outside the file. -/
  | completionPosition (file : String) (line column : Int)
  deriving DecidableEq, Repr

namespace Failure

/-- A message with the known parts of its context in brackets; empty texts are not known. -/
def inContext (message : String) (filePath fieldPath : Option String) : String :=
  let known (text : Option String) : Option String := text.filter (· ≠ "")
  let parts :=
    ((known filePath).map ("in " ++ ·)).toList ++
    ((known fieldPath).map fun field => "field '" ++ field ++ "'").toList
  if parts.isEmpty then message else message ++ " (" ++ ", ".intercalate parts ++ ")"

/-- The wording of a position outside a file. -/
def outsideMessage (file line column : String) : String :=
  "Position " ++ line ++ ":" ++ column ++ " is outside '" ++ file ++ "'"

/-- The wording of a failure. -/
def message : Failure → String
  | .general message => message
  | .routing target => "No backend route for project type '" ++ target ++ "'"
  | .persistence path reason => "Cannot write artifact '" ++ path ++ "': " ++ reason
  | .configuration message filePath fieldPath => inContext message filePath fieldPath
  | .backendLoad reference fieldPath =>
    inContext ("Cannot load backend '" ++ reference ++ "'") none fieldPath
  | .versionAlreadySet message => message
  | .completionPosition file line column =>
    outsideMessage file (toString line) (toString column)

/-- The name of the kind of failure, as it stands in the log. -/
def kind : Failure → String
  | .general _ => "KompileError"
  | .routing _ => "RoutingError"
  | .persistence _ _ => "PersistenceError"
  | .configuration _ _ _ => "ConfigurationError"
  | .backendLoad _ _ => "BackendLoadError"
  | .versionAlreadySet _ => "VersionAlreadySetError"
  | .completionPosition _ _ _ => "CompletionPositionError"

end Failure

end Multitarget
