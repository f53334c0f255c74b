import Multitarget.Domain.Reference
import Multitarget.Session.Basic

/-!
# Looking things up

A reference is followed where modules can be imported and things have attributes:
its module is imported, and from there one attribute after another is looked up. A
missing module and a missing attribute are caught, and reported as one failure.
What else can stop the import passes.
-/

namespace Multitarget

/-- Why following a reference stops. -/
inductive LookupError where
  /-- No module is named. -/
  | emptyModule
  /-- A module is named relative to none. -/
  | relativeModule (name : String)
  /-- A module cannot be imported. -/
  | noModule (name : String)
  /-- A thing has no attribute of a name. -/
  | noAttribute (name : String)
  deriving DecidableEq, Repr

/-- The fault that passes where missing modules and missing attributes are caught. -/
def LookupError.uncaught? : LookupError → Option Fault
  | .emptyModule => some .emptyModule
  | .relativeModule name => some (.relativeModule name)
  | .noModule _ | .noAttribute _ => none

/-- Where references are followed: what the import of a module of some name comes to, and the
attribute of some name that a thing has, if it has one. -/
structure Lookup (Thing : Type) where
  importModule : String → Except LookupError Thing
  attribute? : Thing → String → Option Thing

namespace Lookup

variable {Thing : Type} (lookup : Lookup Thing)

/-- What is reached from a thing by an attribute of it, an attribute of that, and so on. -/
def follow (thing : Thing) : List String → Except LookupError Thing
  | [] => .ok thing
  | name :: rest =>
    match lookup.attribute? thing name with
    | some next => follow next rest
    | none => .error (.noAttribute name)

/-- What a reference leads to. -/
def resolve (reference : String) : Except LookupError Thing := do
  let (moduleName, member) := Reference.split reference
  let root ← lookup.importModule moduleName
  lookup.follow root (Reference.attributeNames member)

/-- Follows a reference; a failure names the field that holds it. -/
def load (reference : String) (field : Option String) : Action Thing :=
  match lookup.resolve reference with
  | .ok thing => return thing
  | .error error =>
    match error.uncaught? with
    | some fault => throw fault
    | none => Action.failLogged (.backendLoad reference field)

end Lookup

end Multitarget
