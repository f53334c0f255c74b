import Multitarget.Domain.Failure
import Multitarget.Json.Document
import Multitarget.Schema.Record

/-!
# Exceptions and their description

An exception raised outside the library has a qualified name, a text and, as a
finite tree, the exceptions that caused it or were being handled. A description
is the chain that callers see of it.
-/

namespace Multitarget

open Schema (Checked Field)
open Json (Document)

/-- A failure of the operating system. -/
structure SystemFailure where
  /-- Its number, where it has one. -/
  number : Option Int
  /-- What went wrong. -/
  reason : String
  /-- The path it concerns. -/
  path : Option String
  /-- Whether permission was refused. -/
  denied : Bool
  deriving DecidableEq, Repr

/-- The wording of a failure of the operating system. -/
def SystemFailure.message (failure : SystemFailure) : String :=
  match failure.number with
  | none => failure.reason
  | some number =>
    let place :=
      match failure.path with
      | none => ""
      | some path => ": " ++ Text.quoted path
    "[Errno " ++ toString number ++ "] " ++ failure.reason ++ place

/-- The kinds of failures of the operating system with their numbers; all others are of the last
kind. -/
def SystemFailure.kinds : List (String × List Int) :=
  [("PermissionError", [1, 13]), ("FileNotFoundError", [2]), ("ProcessLookupError", [3]),
    ("InterruptedError", [4]), ("ChildProcessError", [10]), ("BlockingIOError", [11, 114, 115]),
    ("FileExistsError", [17]), ("NotADirectoryError", [20]), ("IsADirectoryError", [21]),
    ("BrokenPipeError", [32, 108]), ("ConnectionAbortedError", [103]),
    ("ConnectionResetError", [104]), ("TimeoutError", [110]),
    ("ConnectionRefusedError", [111]), ("OSError", [])]

/-- The kind of a failure of the operating system by its number. -/
def SystemFailure.kindOf (number : Option Int) : String :=
  ((SystemFailure.kinds.find? fun entry => number.any entry.2.contains).map Prod.fst).getD "OSError"

/-- What kind of thing was raised. -/
inductive Exception.Nature where
  /-- A failure of the library. -/
  | failure (failure : Failure)
  /-- A failure of the operating system. -/
  | system (failure : SystemFailure)
  /-- Any other fault, with its text. -/
  | ordinary (text : String)
  /-- An interrupt from the keyboard, which nothing contains. -/
  | interrupt (text : String)
  /-- A request to exit, which nothing contains, with what is to be said. -/
  | exit (text : Option String)
  deriving DecidableEq, Repr

/-- An exception with the tree of those behind it. -/
inductive Exception where
  | mk (qualifiedName : String) (nature : Exception.Nature)
    (cause context : Option Exception) (contextSuppressed : Bool)
  deriving Repr

namespace Exception

instance : Inhabited Exception := ⟨.mk "" (.ordinary "") none none false⟩

/-- The qualified name of its class. -/
def qualifiedName : Exception → String
  | .mk name _ _ _ _ => name

/-- What kind of thing was raised. -/
def nature : Exception → Nature
  | .mk _ nature _ _ _ => nature

/-- The exception that is given as its cause. -/
def cause : Exception → Option Exception
  | .mk _ _ cause _ _ => cause

/-- The exception that was being handled when it was raised. -/
def context : Exception → Option Exception
  | .mk _ _ _ context _ => context

/-- Whether the exception being handled was suppressed when it was raised. -/
def contextSuppressed : Exception → Bool
  | .mk _ _ _ _ suppressed => suppressed

/-- The text of an exception by its nature. -/
def Nature.text : Nature → String
  | .failure known => known.message
  | .system known => known.message
  | .ordinary wording => wording
  | .interrupt wording => wording
  | .exit wording => wording.getD ""

/-- The text of an exception. -/
def text (exception : Exception) : String :=
  exception.nature.text

/-- Whether it is a fault, and not a request to stop. -/
def isFault (exception : Exception) : Bool :=
  match exception.nature with
  | .interrupt _ => false
  | .exit _ => false
  | _ => true

end Exception

/-- What callers see of an exception: its text unless empty, its name, and what is behind it. -/
inductive ExceptionDescription where
  | mk (message : Option String) (fullName : String) (stackTrace : List String)
    (cause : Option ExceptionDescription)
  deriving Repr

namespace ExceptionDescription

/-- The text of the exception. -/
def message : ExceptionDescription → Option String
  | .mk message _ _ _ => message

/-- The qualified name of its class. -/
def fullName : ExceptionDescription → String
  | .mk _ fullName _ _ => fullName

/-- The frames it was raised in. -/
def stackTrace : ExceptionDescription → List String
  | .mk _ _ stackTrace _ => stackTrace

/-- The exception behind it. -/
def cause : ExceptionDescription → Option ExceptionDescription
  | .mk _ _ _ cause => cause

/-- Describes an exception and those behind it: its cause or else the one being handled. Frames
are not recorded. -/
def ofException : Exception → ExceptionDescription
  | .mk name nature cause context _ =>
    let message := if nature.text = "" then none else some nature.text
    match cause with
    | some cause => .mk message name [] (some (ofException cause))
    | none =>
      match context with
      | some context => .mk message name [] (some (ofException context))
      | none => .mk message name [] none

/-- The fields of a description. -/
def fields : List Field :=
  [.simple "message", ⟨"fullName", "full_name"⟩, ⟨"stackTrace", "stack_trace"⟩, .simple "cause"]

/-- This many records may stand inside each other. -/
def nestingLimit : Nat := 255

/-- How many exceptions a description tells of. -/
def length : ExceptionDescription → Nat
  | .mk _ _ _ none => 1
  | .mk _ _ _ (some cause) => length cause + 1

mutual

/-- Reads a description of no more than `inner` exceptions behind the first one. -/
def checkNested (inner : Nat) : Value → Checked ExceptionDescription
  | .map entries =>
    let causes := checkCauses inner entries
    (fun description _ => description)
      <$> (ExceptionDescription.mk
        <$> Schema.defaulted entries (.simple "message") none (Schema.optional Schema.text)
        <*> Schema.required entries ⟨"fullName", "full_name"⟩ Schema.text
        <*> Schema.defaulted entries ⟨"stackTrace", "stack_trace"⟩ [] (Schema.list Schema.text)
        <*> Schema.defaulted causes (.simple "cause") none id)
      <*> Schema.surplus fields entries
  | _ => .fail (.recordType "ExceptionDescriptor")

/-- Reads every entry's value as a description of no more than some exceptions, or nothing. -/
def checkCauses : Nat → List (Value × Value) → List (Value × Checked (Option ExceptionDescription))
  | _, [] => []
  | inner, (key, .null) :: rest => (key, .valid none) :: checkCauses inner rest
  | 0, (key, _) :: rest => (key, .fail .nestedTooDeep) :: checkCauses 0 rest
  | inner + 1, (key, value) :: rest =>
    (key, (checkNested inner value).map some) :: checkCauses (inner + 1) rest

end

/-- Reads a description. -/
def check : Value → Checked ExceptionDescription := checkNested (nestingLimit - 1)

/-- Reads a description inside another record. -/
def checkInside : Value → Checked ExceptionDescription := checkNested (nestingLimit - 2)

/-- The wire form of a description. -/
def toDocument : ExceptionDescription → Document
  | .mk message fullName stackTrace cause =>
    .object [
      ("message", .ofText? message),
      ("fullName", .text fullName),
      ("stackTrace", .array (stackTrace.map Document.text)),
      ("cause", match cause with
        | none => .null
        | some cause => toDocument cause)]

end ExceptionDescription

end Multitarget
