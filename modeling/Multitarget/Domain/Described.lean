import Multitarget.Domain.Failure
import Multitarget.Json.Access
import Multitarget.Log.Record

/-!
# Described failures

A failure can be made from a description: its kind and the arguments that make it,
in order or by name, which may be values of any kind. Its wording shows them as
texts, and beside its wording it tells them as they are.
-/

namespace Multitarget.Described

open Json (Document)

/-- The text of a value inside a wording. -/
def shown : Document → String
  | .text value => value
  | value => value.toValue.display

/-- What a kind of failure is made of. -/
structure Parameters where
  /-- The kind that says so. -/
  owner : String
  /-- The names of the arguments in order. -/
  ordered : List String
  /-- Names of further arguments that are given by name only. -/
  optional : List String

/-- The parameters of a kind of failure. -/
def parameters : String → Parameters
  | "RoutingError" => ⟨"RoutingError", ["project_type"], ["internal_details"]⟩
  | "PersistenceError" => ⟨"PersistenceError", ["path", "reason"], ["internal_details"]⟩
  | "ConfigurationError" =>
    ⟨"ConfigurationError", ["user_message"], ["file_path", "field_path", "internal_details"]⟩
  | "BackendLoadError" => ⟨"BackendLoadError", ["reference"], ["field_path", "internal_details"]⟩
  | "CompletionPositionError" =>
    ⟨"CompletionPositionError", ["file_name", "line", "character"], []⟩
  | _ => ⟨"KompileError", ["user_message"], ["internal_details"]⟩

/-- Quoted names as a list in words. -/
def listNames : List String → String
  | [] => ""
  | [name] => "'" ++ name ++ "'"
  | [name, last] => "'" ++ name ++ "' and '" ++ last ++ "'"
  | [name, next, last] => "'" ++ name ++ "', '" ++ next ++ "', and '" ++ last ++ "'"
  | name :: rest => "'" ++ name ++ "', " ++ listNames rest

/-- A number of things. -/
def counted (count : Nat) (thing : String) : String :=
  toString count ++ " " ++ thing ++ if count = 1 then "" else "s"

namespace Parameters

/-- The wording of more arguments in order than there are parameters. -/
def surplusMessage (parameters : Parameters) (given named : Nat) : String :=
  let further :=
    if named = 0 then ""
    else " positional arguments (and " ++ counted named "keyword-only argument" ++ ")"
  "takes " ++ counted (parameters.ordered.length + 1) "positional argument" ++ " but "
    ++ toString (given + 1) ++ further ++ " were given"

/-- Why arguments do not fit: so many are given in order, the others by name. -/
def misfit? (parameters : Parameters) (given : Nat) (names : List String) : Option String :=
  let left := parameters.ordered.drop given
  let missing := left.filter fun name => !names.contains name
  let named := (names.filter parameters.optional.contains).length
  let reason :=
    match names.find? fun name => !(parameters.optional ++ left).contains name with
    | some name =>
      some (if parameters.ordered.contains name then
          "got multiple values for argument '" ++ name ++ "'"
        else "got an unexpected keyword argument '" ++ name ++ "'")
    | none =>
      if parameters.ordered.length < given then some (parameters.surplusMessage given named)
      else if missing.isEmpty then none
      else some ("missing " ++ counted missing.length "required positional argument" ++ ": "
        ++ listNames missing)
  reason.map fun reason => parameters.owner ++ ".__init__() " ++ reason

end Parameters

/-- The failure of a kind whose wording is given, if there is such a kind. -/
def failure? (kind wording reason : String) : Option Failure :=
  match kind with
  | "KompileError" => some (.general wording)
  | "RoutingError" => some (.routing wording)
  | "VersionAlreadySetError" => some (.versionAlreadySet wording)
  | "ConfigurationError" => some (.configuration wording none none)
  | "BackendLoadError" => some (.backendLoad wording none)
  | "PersistenceError" => some (.persistence wording reason)
  | _ => none

/-- A failure made from a description. -/
structure Made where
  /-- The wording. -/
  message : String
  /-- What it tells besides, by name. -/
  details : List (String × Document)
  /-- What is shown to the user. -/
  userMessage : Document
  /-- What is logged when it is made. -/
  log : List Log.Record

/-- Makes a failure of a kind from arguments in order and by name; gives the reason where they do
not fit. -/
def make (kind : String) (given : List Document) (named : List (String × Document)) :
    Except String Made :=
  let parameters := parameters kind
  let value (name : String) : Document := (Document.object named).get name
  let argument (place : Nat) : Document :=
    given[place]?.getD (value (parameters.ordered[place]?.getD ""))
  let holds (name : String) : Bool := !(value name).toValue.isEmpty
  let context (name : String) : Option String :=
    if holds name then some (shown (value name)) else none
  let first := shown (argument 0)
  let (message, details) : String × List (String × Document) :=
    match kind with
    | "ConfigurationError" =>
      (Failure.inContext first (context "file_path") (context "field_path"),
        [("file_path", value "file_path"), ("field_path", value "field_path")])
    | "BackendLoadError" =>
      ((Failure.backendLoad first (context "field_path")).message,
        [("file_path", .null), ("field_path", value "field_path"), ("reference", argument 0)])
    | "CompletionPositionError" =>
      (Failure.outsideMessage first (shown (argument 1)) (shown (argument 2)),
        [("line", argument 1), ("character", argument 2)])
    | "PersistenceError" =>
      ((Failure.persistence first (shown (argument 1))).message, [("path", argument 0)])
    | "RoutingError" => ((Failure.routing first).message, [("project_type", argument 0)])
    | _ => (first, [])
  let userMessage : Document := if message = first then argument 0 else .text message
  let record : Log.Record :=
    ⟨.error, "kompile_error", [("error_type", .text kind), ("user_message", userMessage)]⟩
  match parameters.misfit? given.length (named.map Prod.fst) with
  | some reason => .error reason
  | none => .ok ⟨message, details, userMessage, if holds "internal_details" then [record] else []⟩

end Multitarget.Described
