import Multitarget.Data.Value

/-!
# JSON documents

The values of JSON. Whole numbers and numbers with a fraction are kept apart,
and the members of an object keep their order.
-/

namespace Multitarget.Json

/-- A JSON value. -/
inductive Document where
  | null
  | bool (value : Bool)
  | int (value : Int)
  | real (value : Binary64)
  | text (value : String)
  | array (items : List Document)
  | object (members : List (String × Document))
  deriving Repr, Inhabited

namespace Document

mutual

/-- The document as a loaded value. -/
def toValue : Document → Value
  | .null => .null
  | .bool value => .bool value
  | .int value => .int value
  | .real value => .real value
  | .text value => .text value
  | .array items => .list (toValues items)
  | .object members => .map (toEntries members)

/-- The documents as loaded values. -/
def toValues : List Document → List Value
  | [] => []
  | item :: rest => toValue item :: toValues rest

/-- The members as entries whose keys are texts. -/
def toEntries : List (String × Document) → List (Value × Value)
  | [] => []
  | (name, item) :: rest => (.text name, toValue item) :: toEntries rest

end

/-- Members with the value of a name replaced, or the member put at the end. -/
def put (name : String) (item : Document) :
    List (String × Document) → List (String × Document)
  | [] => [(name, item)]
  | (other, old) :: rest =>
    if other = name then (other, item) :: rest else (other, old) :: put name item rest

/-- A text, or null. -/
def ofText? : Option String → Document
  | none => .null
  | some value => .text value

end Document

end Multitarget.Json
