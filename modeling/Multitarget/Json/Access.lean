import Multitarget.Json.Document

/-!
# Looking into documents

The members of an object by name, read as what they are expected to be; what is
missing or of another kind counts as nothing, empty or false.
-/

namespace Multitarget.Json.Document

/-- The member of a name. -/
def get? (document : Document) (name : String) : Option Document :=
  match document with
  | .object members => (members.find? fun entry => entry.1 == name).map Prod.snd
  | _ => none

/-- The member of a name, or null. -/
def get (document : Document) (name : String) : Document := (document.get? name).getD .null

/-- The items of an array. -/
def items : Document → List Document
  | .array list => list
  | _ => []

/-- The text that a document is. -/
def asText? : Document → Option String
  | .text value => some value
  | _ => none

/-- The text that a document is, or the empty text. -/
def asText (document : Document) : String := document.asText?.getD ""

/-- The whole number that a document is, or zero. -/
def asInt : Document → Int
  | .int value => value
  | _ => 0

/-- The items of a member. -/
def list (document : Document) (name : String) : List Document := (document.get name).items

/-- The text of a member. -/
def str? (document : Document) (name : String) : Option String := (document.get name).asText?

/-- The text of a member, or the empty text. -/
def str (document : Document) (name : String) : String := (document.get name).asText

/-- The truth value of a member, or a default where it is none. -/
def flag (document : Document) (name : String) (default : Bool) : Bool :=
  match document.get name with
  | .bool value => value
  | _ => default

/-- The first two items of an array. -/
def pair (document : Document) : Document × Document :=
  match document.items with
  | first :: second :: _ => (first, second)
  | _ => (.null, .null)

mutual

/-- The document with the members of every object changed, inner objects first. -/
def mapMembers (change : List (String × Document) → List (String × Document)) :
    Document → Document
  | .array items => .array (mapMembersItems change items)
  | .object members => .object (change (mapMembersFields change members))
  | document => document

/-- The items of an array with the members of every object in them changed. -/
def mapMembersItems (change : List (String × Document) → List (String × Document)) :
    List Document → List Document
  | [] => []
  | item :: rest => mapMembers change item :: mapMembersItems change rest

/-- The members of an object with the members of every object in them changed. -/
def mapMembersFields (change : List (String × Document) → List (String × Document)) :
    List (String × Document) → List (String × Document)
  | [] => []
  | (name, item) :: rest => (name, mapMembers change item) :: mapMembersFields change rest

end

/-- An array of texts. -/
def ofTexts (texts : List String) : Document := .array (texts.map .text)

end Multitarget.Json.Document
