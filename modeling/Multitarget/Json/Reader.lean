import Multitarget.Json.Document

/-!
# Reading JSON

A recursive descent over the characters. The first fault is reported with the
place where it was noticed: a line, a column and the number of characters before.
Beside standard JSON the words for infinite and undefined numbers are read.
-/

namespace Multitarget.Json

/-- What is wrong with a text that is no JSON document. -/
inductive Problem where
  | value
  | propertyName
  | colon
  | comma
  | unterminated
  | control
  | escape
  | unicodeEscape
  | extraData
  | byteOrderMark
  deriving DecidableEq, Repr

/-- The wording of a problem. -/
def Problem.message : Problem → String
  | .value => "Expecting value"
  | .propertyName => "Expecting property name enclosed in double quotes"
  | .colon => "Expecting ':' delimiter"
  | .comma => "Expecting ',' delimiter"
  | .unterminated => "Unterminated string starting at"
  | .control => "Invalid control character at"
  | .escape => "Invalid \\escape"
  | .unicodeEscape => "Invalid \\uXXXX escape"
  | .extraData => "Extra data"
  | .byteOrderMark => "Unexpected UTF-8 BOM (decode using utf-8-sig)"

/-- Why a text could not be read. -/
inductive Failure where
  /-- It is no JSON: the problem and the number of characters before it. -/
  | malformed (problem : Problem) (position : Nat)
  /-- A whole number has more digits than are read. -/
  | longNumeral (digits : Nat)
  deriving DecidableEq, Repr

/-- A place in the text: the number of characters before it and those from it on. -/
structure Place where
  position : Nat
  rest : List Char

/-- What is read from a place, with the place behind it. -/
abbrev Reading (α : Type) := Except Failure (α × Place)

/-- Whether JSON allows the character between its tokens. -/
def isSpace (character : Char) : Bool :=
  character == ' ' || character == '\t' || character == '\n' || character == '\r'

/-- The place that many characters further on. -/
def Place.advance (place : Place) (count : Nat) : Place :=
  ⟨place.position + count, place.rest.drop count⟩

/-- The next place that holds no space. -/
def Place.skip (place : Place) : Place :=
  place.advance (place.rest.takeWhile isSpace).length

/-- The number written by exactly four hexadecimal digits that another character follows. -/
def fourHex : List Char → Option Nat
  | a :: b :: c :: d :: _ :: _ => Text.numeral 16 [a, b, c, d]
  | _ => none

/-- The character of a code unit outside the surrogates, else the replacement character. -/
def unitCharacter (unit : Nat) : Char :=
  if 0xD800 ≤ unit ∧ unit ≤ 0xDFFF then '\uFFFD' else Char.ofNat unit

/-- The character that a letter stands for behind a backslash. -/
def simpleEscape : Char → Option Char
  | '"' => some '"'
  | '\\' => some '\\'
  | '/' => some '/'
  | 'b' => some '\x08'
  | 'f' => some '\x0c'
  | 'n' => some '\n'
  | 'r' => some '\r'
  | 't' => some '\t'
  | _ => none

/-- Reads the characters of a text up to its closing quote. `opening` is the position of the
opening quote; `fuel` exceeds the number of characters left. -/
def readText (opening : Nat) : (fuel : Nat) → Place → Reading (List Char)
  | 0, _ => .error (.malformed .unterminated opening)
  | fuel + 1, place =>
    let emit (character : Char) (place : Place) : Reading (List Char) :=
      (readText opening fuel place).map fun (text, place) => (character :: text, place)
    match place.rest with
    | [] => .error (.malformed .unterminated opening)
    | '"' :: rest => .ok ([], ⟨place.position + 1, rest⟩)
    | ['\\'] => .error (.malformed .unterminated opening)
    | '\\' :: 'u' :: rest =>
      match fourHex rest with
      | none => .error (.malformed .unicodeEscape (place.position + 1))
      | some unit =>
        let single := emit (unitCharacter unit) (place.advance 6)
        if 0xD800 ≤ unit ∧ unit ≤ 0xDBFF then
          match rest.drop 4 with
          | '\\' :: 'u' :: more =>
            if more.length < 5 then single
            else
              match fourHex more with
              | none => .error (.malformed .unicodeEscape (place.position + 7))
              | some low =>
                if 0xDC00 ≤ low ∧ low ≤ 0xDFFF then
                  emit (Char.ofNat (0x10000 + (unit - 0xD800) * 0x400 + (low - 0xDC00)))
                    (place.advance 12)
                else single
          | _ => single
        else single
    | '\\' :: letter :: _ =>
      match simpleEscape letter with
      | some character => emit character (place.advance 2)
      | none => .error (.malformed .escape place.position)
    | character :: _ =>
      if character.toNat < 0x20 then .error (.malformed .control place.position)
      else emit character (place.advance 1)

/-- The number of digits at the start of a text. -/
def digitCount (text : List Char) : Nat :=
  (text.takeWhile Text.isDigit).length

/-- How many digits before a point stand at the start of a text; a leading zero stands alone. -/
def wholeLength : List Char → Nat
  | '0' :: _ => 1
  | text => digitCount text

/-- How many characters of a fraction stand at the start of a text. -/
def fractionLength : List Char → Nat
  | '.' :: rest => if digitCount rest = 0 then 0 else digitCount rest + 1
  | _ => 0

/-- How many characters of an exponent stand at the start of a text. -/
def exponentLength : List Char → Nat
  | letter :: rest =>
    if letter = 'e' ∨ letter = 'E' then
      let sign :=
        match rest with
        | '+' :: _ => 1
        | '-' :: _ => 1
        | _ => 0
      let digits := digitCount (rest.drop sign)
      if digits = 0 then 0 else 1 + sign + digits
    else 0
  | [] => 0

/-- The number that the characters of an exponent write. -/
def exponentValue (text : List Char) : Int :=
  match text.drop 1 with
  | '-' :: digits => -((Text.numeral 10 digits).getD 0 : Int)
  | '+' :: digits => ((Text.numeral 10 digits).getD 0 : Nat)
  | digits => ((Text.numeral 10 digits).getD 0 : Nat)

/-- Reads a number. -/
def readNumber (place : Place) : Reading Document :=
  let negative := place.rest.head? == some '-'
  let size := if negative then place.rest.drop 1 else place.rest
  let whole := wholeLength size
  if whole = 0 then .error (.malformed .value place.position)
  else
    let digits := size.take whole
    let fraction := (size.drop whole).take (fractionLength (size.drop whole))
    let behind := size.drop (whole + fraction.length)
    let exponent := behind.take (exponentLength behind)
    let place := place.advance
      ((if negative then 1 else 0) + whole + fraction.length + exponent.length)
    if fraction.isEmpty && exponent.isEmpty then
      if Text.numeralLimit < whole then .error (.longNumeral whole)
      else
        let number := (Text.numeral 10 digits).getD 0
        .ok (.int (if negative then -(number : Int) else number), place)
    else
      let all := digits ++ fraction.drop 1
      let power := exponentValue exponent - ((fraction.length - 1 : Nat) : Int)
      .ok (.real (.ofDecimal negative ((Text.numeral 10 all).getD 0) all.length power), place)

/-- Words that stand for a value. -/
def wordValues : List (String × Document) :=
  [("null", .null), ("true", .bool true), ("false", .bool false), ("NaN", .real .undefined),
    ("Infinity", .real (.infinite false)), ("-Infinity", .real (.infinite true))]

/-- The word at the start of a text and its value. -/
def wordAt (text : List Char) : Option (String × Document) :=
  wordValues.find? fun entry => entry.1.toList.isPrefixOf text

mutual

/-- Reads a value that starts at the place. -/
def readValue : (fuel : Nat) → Place → Reading Document
  | 0, place => .error (.malformed .value place.position)
  | fuel + 1, place =>
    match place.rest with
    | '"' :: _ =>
      (readText place.position (place.rest.length + 1) (place.advance 1)).map
        fun (text, place) => (.text (String.ofList text), place)
    | '\x7b' :: _ =>
      let inner := (place.advance 1).skip
      match inner.rest with
      | '\x7d' :: _ => .ok (.object [], inner.advance 1)
      | _ => (readMembers fuel inner []).map fun (members, place) => (.object members, place)
    | '[' :: _ =>
      let inner := (place.advance 1).skip
      match inner.rest with
      | ']' :: _ => .ok (.array [], inner.advance 1)
      | _ => (readItems fuel inner).map fun (items, place) => (.array items, place)
    | text =>
      match wordAt text with
      | some (word, document) => .ok (document, place.advance word.length)
      | none => readNumber place

/-- Reads the items of an array from the first one on. -/
def readItems : (fuel : Nat) → Place → Except Failure (List Document × Place)
  | 0, place => .error (.malformed .value place.position)
  | fuel + 1, place => do
    let (item, place) ← readValue fuel place
    let place := place.skip
    match place.rest with
    | ']' :: _ => .ok ([item], place.advance 1)
    | ',' :: _ =>
      let (items, place) ← readItems fuel (place.advance 1).skip
      .ok (item :: items, place)
    | _ => .error (.malformed .comma place.position)

/-- Reads the members of an object from the first one on, behind those already read. -/
def readMembers : (fuel : Nat) → Place → List (String × Document) →
    Except Failure (List (String × Document) × Place)
  | 0, place, _ => .error (.malformed .propertyName place.position)
  | fuel + 1, place, members =>
    match place.rest with
    | '"' :: _ => do
      let (name, place) ←
        readText place.position (place.rest.length + 1) (place.advance 1)
      let place := place.skip
      match place.rest with
      | ':' :: _ =>
        let (item, place) ← readValue fuel (place.advance 1).skip
        let members := Document.put (String.ofList name) item members
        let place := place.skip
        match place.rest with
        | '\x7d' :: _ => .ok (members, place.advance 1)
        | ',' :: _ => readMembers fuel (place.advance 1).skip members
        | _ => .error (.malformed .comma place.position)
      | _ => .error (.malformed .colon place.position)
    | _ => .error (.malformed .propertyName place.position)

end

/-- Reads a text that is one JSON document. Reading goes two calls deeper for each bracket that is
opened, and at most one for each comma, so that twice the length is never used up. -/
def read (text : List Char) : Except Failure Document := do
  if text.head? = some '\uFEFF' then .error (.malformed .byteOrderMark 0)
  let (document, place) ← readValue (2 * text.length + 2) (Place.mk 0 text).skip
  let place := place.skip
  if place.rest.isEmpty then .ok document
  else .error (.malformed .extraData place.position)

/-- The wording of a failure to read the text. -/
def Failure.message (text : List Char) : Failure → String
  | .malformed problem position =>
    let before := text.take position
    let line := before.count '\n' + 1
    let column := (before.reverse.takeWhile (· != '\n')).length + 1
    let shown (number : Nat) : String := String.ofList (Text.decimal number)
    problem.message ++ ": line " ++ shown line ++ " column " ++ shown column
      ++ " (char " ++ shown position ++ ")"
  | .longNumeral digits => Text.longNumeralMessage digits

end Multitarget.Json
