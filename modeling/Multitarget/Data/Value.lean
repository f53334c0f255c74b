import Multitarget.Data.Calendar
import Multitarget.Number.Shortest
import Multitarget.Text.Quoted
import Multitarget.Text.Utf8

/-!
# Loaded values

What a document of either text format holds once it is read: the values that
records are checked against. Keys of maps may be any scalar or a tuple.
-/

namespace Multitarget

/-- A value read from a document. -/
inductive Value where
  | null
  | bool (value : Bool)
  | int (value : Int)
  | real (value : Binary64)
  | text (value : String)
  | bytes (value : Text.Bytes)
  | date (value : Date)
  | moment (value : Moment)
  | list (items : List Value)
  | tuple (items : List Value)
  | set (items : List Value)
  | map (entries : List (Value × Value))
  deriving Repr, Inhabited

namespace Value

/-- The number that a value counts as when keys are compared: truth values are 0 and 1. -/
def number? : Value → Option (Int ⊕ Binary64)
  | .bool value => some (.inl (if value then 1 else 0))
  | .int value => some (.inl value)
  | .real value =>
    match value.toInt? with
    | some whole => some (.inl whole)
    | none => some (.inr value)
  | _ => none

mutual

/-- Whether two keys are the same key: numbers by value across their kinds, else by kind and
content. -/
def sameKey : Value → Value → Bool
  | .null, .null => true
  | .text left, .text right => left == right
  | .bytes left, .bytes right => left == right
  | .date left, .date right => left == right
  | .moment left, .moment right => left.sameInstant right
  | .tuple left, .tuple right => sameKeys left right
  | left, right =>
    match left.number?, right.number? with
    | some (.inl first), some (.inl second) => first == second
    | some (.inr first), some (.inr second) => first.equal second
    | _, _ => false

/-- Whether two lists of keys are the same. -/
def sameKeys : List Value → List Value → Bool
  | [], [] => true
  | first :: left, second :: right => sameKey first second && sameKeys left right
  | _, _ => false

end

mutual

/-- Whether a value may be a key. -/
def isKey : Value → Bool
  | .list _ => false
  | .set _ => false
  | .map _ => false
  | .tuple items => areKeys items
  | _ => true

/-- Whether all values may be keys. -/
def areKeys : List Value → Bool
  | [] => true
  | item :: rest => isKey item && areKeys rest

end

/-- Entries with the value of a key replaced, or the entry put at the end. -/
def put (key value : Value) : List (Value × Value) → List (Value × Value)
  | [] => [(key, value)]
  | (other, old) :: rest =>
    if sameKey other key then (other, value) :: rest else (other, old) :: put key value rest

/-- Members with one more, unless it is there. -/
def addMember (member : Value) (members : List Value) : List Value :=
  if members.any (sameKey · member) then members else members ++ [member]

/-- Whether the value is empty: null, false, zero, or without characters or items. -/
def isEmpty : Value → Bool
  | .null => true
  | .bool value => !value
  | .int value => value == 0
  | .real value => value.toInt? == some 0
  | .text value => value == ""
  | .bytes value => value.isEmpty
  | .date _ => false
  | .moment _ => false
  | .list items => items.isEmpty
  | .tuple items => items.isEmpty
  | .set items => items.isEmpty
  | .map entries => entries.isEmpty

/-- The name of the type of the value. -/
def typeName : Value → String
  | .null => "NoneType"
  | .bool _ => "bool"
  | .int _ => "int"
  | .real _ => "float"
  | .text _ => "str"
  | .bytes _ => "bytes"
  | .date _ => "datetime.date"
  | .moment _ => "datetime.datetime"
  | .list _ => "list"
  | .tuple _ => "tuple"
  | .set _ => "set"
  | .map _ => "dict"

/-- How a byte stands in quoted bytes. -/
def escapeByte (quote : Char) (byte : UInt8) : List Char :=
  let character := Char.ofNat byte.toNat
  if character = quote ∨ character = '\\' then ['\\', character]
  else if character = '\n' then ['\\', 'n']
  else if character = '\r' then ['\\', 'r']
  else if character = '\t' then ['\\', 't']
  else if 0x20 ≤ byte.toNat ∧ byte.toNat < 0x7F then [character]
  else '\\' :: 'x' :: Text.hexadecimal 2 byte.toNat

/-- Bytes in quotes, visible ones as characters. -/
def quotedBytes (bytes : Text.Bytes) : String :=
  let quote := Text.Quoted.mark (bytes.map fun byte => Char.ofNat byte.toNat)
  "b" ++ String.ofList (quote :: (bytes.flatMap (escapeByte quote) ++ [quote]))

mutual

/-- The text of a value: quoted texts, brackets around items, a colon after a key. -/
def display : Value → String
  | .null => "None"
  | .bool value => if value then "True" else "False"
  | .int value => String.ofList (Text.integer value)
  | .real value => String.ofList value.render
  | .text value => Text.quoted value
  | .bytes value => quotedBytes value
  | .date value => value.display
  | .moment value => value.display
  | .list items => "[" ++ ", ".intercalate (displayAll items) ++ "]"
  | .tuple [item] => "(" ++ display item ++ ",)"
  | .tuple items => "(" ++ ", ".intercalate (displayAll items) ++ ")"
  | .set [] => "set()"
  | .set items => "\x7b" ++ ", ".intercalate (displayAll items) ++ "\x7d"
  | .map entries => "\x7b" ++ ", ".intercalate (displayEntries entries) ++ "\x7d"

/-- The texts of values. -/
def displayAll : List Value → List String
  | [] => []
  | item :: rest => display item :: displayAll rest

/-- The texts of entries. -/
def displayEntries : List (Value × Value) → List String
  | [] => []
  | (key, value) :: rest => (display key ++ ": " ++ display value) :: displayEntries rest

end

end Value

end Multitarget
