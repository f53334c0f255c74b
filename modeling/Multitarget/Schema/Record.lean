import Multitarget.Data.Keyed
import Multitarget.Schema.Scalar

/-!
# Checks of records and maps

A record is read from a mapping: each field from the entry of its wire name or,
failing that, of its plain name, then no entry may be left over.
-/

namespace Multitarget.Schema

/-- The names a field goes by: on the wire, and plain. -/
structure Field where
  wire : String
  plain : String
  deriving DecidableEq, Repr

/-- A field that has one name. -/
def Field.simple (name : String) : Field := ⟨name, name⟩

variable {α β : Type}

/-- The value of a name among entries. -/
def entry (name : String) : List (Value × β) → Option β
  | [] => none
  | (.text key, value) :: rest => if key = name then some value else entry name rest
  | _ :: rest => entry name rest

/-- The entry that a field is read from: the name it stands under and its value. -/
def Field.entry (field : Field) (entries : List (Value × β)) : Option (String × β) :=
  match Schema.entry field.wire entries with
  | some value => some (field.wire, value)
  | none => (Schema.entry field.plain entries).map fun value => (field.plain, value)

/-- Reads a field that must be there. -/
def required (entries : List (Value × β)) (field : Field) (check : β → Checked α) : Checked α :=
  match field.entry entries with
  | some (name, value) => (check value).within (.name name)
  | none => .invalid [⟨[.name field.wire], .missing⟩]

/-- Reads a field that has a default. -/
def defaulted (entries : List (Value × β)) (field : Field) (default : α)
    (check : β → Checked α) : Checked α :=
  match field.entry entries with
  | some (name, value) => (check value).within (.name name)
  | none => .valid default

/-- The step to the value of a key: small whole numbers are indices, other keys go by their
text. -/
def stepOf : Value → Step
  | .text name => .name name
  | .bool value => .index (if value then 1 else 0)
  | .int value => if fitsWord value then .index value else .name (toString value)
  | value => .name value.display

/-- The names under which the fields of a record were found. -/
def usedNames (fields : List Field) (entries : List (Value × β)) : List String :=
  fields.filterMap fun field => (field.entry entries).map Prod.fst

/-- The issue of an entry that no field was read from. -/
def surplusIssue (used : List String) (key : Value) : List Issue :=
  match key with
  | .text name => if used.contains name then [] else [⟨[.name name], .extraForbidden⟩]
  | .bytes raw =>
    match Text.Utf8.decode raw with
    | .ok name =>
      if used.contains (String.ofList name) then [] else [⟨[stepOf key], .extraForbidden⟩]
    | .error _ => [⟨[stepOf key], .invalidKey⟩]
  | key => [⟨[stepOf key], .invalidKey⟩]

/-- Finds the entries that no field was read from. -/
def surplus (fields : List Field) (entries : List (Value × β)) : Checked Unit :=
  match entries.flatMap fun entry => surplusIssue (usedNames fields entries) entry.1 with
  | [] => .valid ()
  | issues => .invalid issues

/-- Reads a record of the given name and fields from a mapping. -/
def record (name : String) (fields : List Field)
    (read : List (Value × Value) → Checked α) : Value → Checked α
  | .map entries => (fun value _ => value) <$> read entries <*> surplus fields entries
  | _ => .fail (.recordType name)

/-- Reads the entries of a map, key before value. -/
def mapEntries (check : Value → Checked α) : List (Value × Value) → Checked (List (String × α))
  | [] => .valid []
  | (key, value) :: rest =>
    let step := stepOf key
    (fun name value rest => (name, value) :: rest)
      <$> ((text key).within (.name "[key]")).within step
      <*> (check value).within step
      <*> mapEntries check rest

/-- Reads a map from texts. -/
def map (check : Value → Checked α) : Value → Checked (Keyed α)
  | .map entries => (mapEntries check entries).map Keyed.ofList
  | _ => .fail .mapType

end Multitarget.Schema
