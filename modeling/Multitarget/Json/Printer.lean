import Multitarget.Json.Document

/-!
# Writing JSON

Documents on one line or indented, with characters beyond ASCII as themselves
or escaped. Whole numbers are written up to the length at which they are read.
-/

namespace Multitarget.Json

/-- One code unit as an escape of four hexadecimal digits. -/
def unitEscape (unit : Nat) : List Char :=
  '\\' :: 'u' :: Text.hexadecimal 4 unit

/-- How one character stands in a text; `ascii` escapes all that is not ASCII, characters
beyond the first plane as two surrogates. -/
def escape (ascii : Bool) (character : Char) : List Char :=
  let code := character.toNat
  if character = '"' then ['\\', '"']
  else if character = '\\' then ['\\', '\\']
  else if character = '\n' then ['\\', 'n']
  else if character = '\r' then ['\\', 'r']
  else if character = '\t' then ['\\', 't']
  else if character = '\x08' then ['\\', 'b']
  else if character = '\x0c' then ['\\', 'f']
  else if code < 0x20 then unitEscape code
  else if ascii && decide (0x7F ≤ code) then
    if code < 0x10000 then unitEscape code
    else
      unitEscape (0xD800 + (code - 0x10000) / 0x400) ++
        unitEscape (0xDC00 + (code - 0x10000) % 0x400)
  else [character]

/-- A text in quotes. -/
def printText (ascii : Bool) (text : String) : List Char :=
  '"' :: (text.toList.flatMap (escape ascii) ++ ['"'])

/-- A number with a fraction; the words for the others are not standard JSON. -/
def printReal : Binary64 → List Char
  | .undefined => "NaN".toList
  | .infinite negative => if negative then "-Infinity".toList else "Infinity".toList
  | number => number.render

mutual

/-- A document on one line, a space behind every comma and colon. -/
def printLine (ascii : Bool) : Document → List Char
  | .null => "null".toList
  | .bool value => if value then "true".toList else "false".toList
  | .int value => Text.integer value
  | .real value => printReal value
  | .text value => printText ascii value
  | .array items => '[' :: printLineItems ascii items
  | .object members => '\x7b' :: printLineMembers ascii members

/-- The items of an array and its closing bracket. -/
def printLineItems (ascii : Bool) : List Document → List Char
  | [] => [']']
  | [item] => printLine ascii item ++ [']']
  | item :: rest => printLine ascii item ++ ',' :: ' ' :: printLineItems ascii rest

/-- The members of an object and its closing brace. -/
def printLineMembers (ascii : Bool) : List (String × Document) → List Char
  | [] => ['\x7d']
  | [(name, item)] => printText ascii name ++ ':' :: ' ' :: (printLine ascii item ++ ['\x7d'])
  | (name, item) :: rest =>
    printText ascii name ++ ':' :: ' ' ::
      (printLine ascii item ++ ',' :: ' ' :: printLineMembers ascii rest)

end

mutual

/-- Whether no whole number of a document has a longer numeral than is written. -/
def isWritable : Document → Bool
  | .int value => decide ((Text.decimal value.natAbs).length ≤ Text.numeralLimit)
  | .array items => areWritable items
  | .object members => areWritableMembers members
  | _ => true

/-- Whether no whole number of some documents has a longer numeral than is written. -/
def areWritable : List Document → Bool
  | [] => true
  | item :: rest => isWritable item && areWritable rest

/-- Whether no whole number of some members has a longer numeral than is written. -/
def areWritableMembers : List (String × Document) → Bool
  | [] => true
  | (_, item) :: rest => isWritable item && areWritableMembers rest

end

/-- A line feed and the indentation of a depth, two spaces each. -/
def newLine (depth : Nat) : List Char :=
  '\n' :: List.replicate (2 * depth) ' '

mutual

/-- A document over several lines: each item and member has its own. Characters beyond ASCII
stand as themselves. -/
def printIndented (depth : Nat) : Document → List Char
  | .null => "null".toList
  | .bool value => if value then "true".toList else "false".toList
  | .int value => Text.integer value
  | .real value => printReal value
  | .text value => printText false value
  | .array [] => ['[', ']']
  | .array items => '[' :: printIndentedItems depth items
  | .object [] => ['\x7b', '\x7d']
  | .object members => '\x7b' :: printIndentedMembers depth members

/-- The items of an array, each on a line, and the closing bracket. -/
def printIndentedItems (depth : Nat) : List Document → List Char
  | [] => newLine depth ++ [']']
  | [item] => newLine (depth + 1) ++ printIndented (depth + 1) item ++ newLine depth ++ [']']
  | item :: rest =>
    newLine (depth + 1) ++ printIndented (depth + 1) item ++ ',' :: printIndentedItems depth rest

/-- The members of an object, each on a line, and the closing brace. -/
def printIndentedMembers (depth : Nat) : List (String × Document) → List Char
  | [] => newLine depth ++ ['\x7d']
  | [(name, item)] =>
    newLine (depth + 1) ++ printText false name ++ ':' :: ' ' ::
      (printIndented (depth + 1) item ++ newLine depth ++ ['\x7d'])
  | (name, item) :: rest =>
    newLine (depth + 1) ++ printText false name ++ ':' :: ' ' ::
      (printIndented (depth + 1) item ++ ',' :: printIndentedMembers depth rest)

end

end Multitarget.Json
