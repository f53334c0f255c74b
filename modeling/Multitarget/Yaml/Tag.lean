import Multitarget.Text.Integer

/-!
# Tags

A tag says what kind of value a node is. A plain scalar without a tag gets one
from the form of its text: numbers, truth values, moments, null, and the two
signs with a meaning in mappings.
-/

namespace Multitarget.Yaml.Tag

/-- The start of the standard tags. -/
def standard (name : String) : String := "tag:yaml.org,2002:" ++ name

def text : String := standard "str"
def sequence : String := standard "seq"
def mapping : String := standard "map"
def null : String := standard "null"
def truth : String := standard "bool"
def integer : String := standard "int"
def real : String := standard "float"
def moment : String := standard "timestamp"
def binary : String := standard "binary"
def merge : String := standard "merge"
def value : String := standard "value"
def indicator : String := standard "yaml"
def pairs : String := standard "pairs"
def ordered : String := standard "omap"
def set : String := standard "set"

/-- Words for null. -/
def nullWords : List String := ["", "~", "null", "Null", "NULL"]

/-- Words for truth values. -/
def truthWords : List String :=
  ["yes", "Yes", "YES", "no", "No", "NO", "true", "True", "TRUE", "false", "False", "FALSE",
    "on", "On", "ON", "off", "Off", "OFF"]

/-- The text without a sign at its start. -/
def dropSign : List Char → List Char
  | '+' :: rest => rest
  | '-' :: rest => rest
  | written => written

/-- Whether all characters are of the class or underscores that separate groups. -/
def areGrouped (test : Char → Bool) (written : List Char) : Bool :=
  written.all fun character => test character || character == '_'

/-- Whether a text starts with a digit and goes on with digits in groups. -/
def isGrouped : List Char → Bool
  | [] => false
  | first :: rest => Text.isDigit first && areGrouped Text.isDigit rest

/-- Splits a text before its first character of the kind. -/
def splitBefore (character : Char) (written : List Char) : List Char × List Char :=
  (written.takeWhile (· != character), written.dropWhile (· != character))

/-- Whether a text is one or two digits of which the first of two is at most five. -/
def isSixty : List Char → Bool
  | [digit] => Text.isDigit digit
  | [tens, ones] => '0' ≤ tens && tens ≤ '5' && Text.isDigit ones
  | _ => false

/-- The pieces of a text between colons. -/
def colonPieces : List Char → List (List Char)
  | [] => [[]]
  | character :: rest =>
    match colonPieces rest with
    | [] => [[]]
    | piece :: pieces =>
      if character = ':' then [] :: piece :: pieces else (character :: piece) :: pieces

/-- Whether a text is a number in base sixty: digits, then groups behind colons. -/
def isSexagesimal (written : List Char) : Bool :=
  match colonPieces written with
  | first :: second :: rest => isGrouped first && (second :: rest).all isSixty
  | _ => false

/-- Whether a text without its sign is a whole number: binary, octal, decimal, hexadecimal or in
base sixty. -/
def isUnsignedInteger : List Char → Bool
  | [] => false
  | ['0'] => true
  | '0' :: 'b' :: rest => !rest.isEmpty && areGrouped (fun c => c == '0' || c == '1') rest
  | '0' :: 'x' :: rest => !rest.isEmpty && areGrouped Text.isHexDigit rest
  | '0' :: rest => areGrouped (fun c => '0' ≤ c && c ≤ '7') rest
  | written => isGrouped written || isSexagesimal written

/-- Whether a text is a whole number. -/
def isInteger (written : List Char) : Bool := isUnsignedInteger (dropSign written)

/-- Whether a text is empty or an exponent with a sign. -/
def isExponent : List Char → Bool
  | [] => true
  | mark :: sign :: digits =>
    (mark == 'e' || mark == 'E') && (sign == '+' || sign == '-') &&
      !digits.isEmpty && digits.all Text.isDigit
  | _ => false

/-- Whether a text behind a point is digits in groups and perhaps an exponent. -/
def isFraction (written : List Char) : Bool :=
  isExponent (written.dropWhile fun character => Text.isDigit character || character == '_')

/-- Whether a text is a number with a point, or one of the words for infinite and undefined. -/
def isReal (written : List Char) : Bool :=
  let unsigned := dropSign written
  let (whole, behind) := splitBefore '.' unsigned
  let special := [".inf".toList, ".Inf".toList, ".INF".toList].contains unsigned ||
    [".nan".toList, ".NaN".toList, ".NAN".toList].contains written
  special ||
    match behind with
    | [] => false
    | _ :: fraction =>
      if whole.isEmpty then
        unsigned == written && fraction.head?.any Text.isDigit && isFraction fraction
      else
        (isGrouped whole && isFraction fraction) ||
          (isSexagesimal whole && areGrouped Text.isDigit fraction)

/-- The numbers of a written day or moment. -/
structure MomentParts where
  year : Nat
  month : Nat
  day : Nat
  /-- Hour, minute, second, and the digits of the fraction. -/
  time : Option (Nat × Nat × Nat × List Char)
  /-- The distance to universal time in minutes. -/
  offset : Option Int

/-- Takes digits from the start of a text, between a least and a greatest count. -/
def takeDigits (least greatest : Nat) (written : List Char) : Option (Nat × List Char) :=
  let digits := (written.takeWhile Text.isDigit).take greatest
  if digits.length < least then none
  else some ((Text.numeral 10 digits).getD 0, written.drop digits.length)

/-- Takes a character from the start of a text. -/
def takeCharacter (character : Char) : List Char → Option (List Char)
  | [] => none
  | first :: rest => if first = character then some rest else none

/-- Whether a character is a space or a tabulator. -/
def isSpacing (character : Char) : Bool := character == ' ' || character == '\t'

/-- Reads the end of a moment: nothing, or a zone behind blanks. -/
def readZone (written : List Char) : Option (Option Int) :=
  if written.isEmpty then some none
  else
    match written.dropWhile isSpacing with
    | ['Z'] => some (some 0)
    | sign :: rest =>
      if sign = '+' ∨ sign = '-' then do
        let (hours, rest) ← takeDigits 1 2 rest
        let minutes ←
          if rest.isEmpty then some 0
          else do
            let (minutes, rest) ← (takeCharacter ':' rest).bind (takeDigits 2 2)
            if rest.isEmpty then some minutes else none
        let distance : Int := hours * 60 + minutes
        return some (if sign = '-' then -distance else distance)
      else none
    | [] => none

/-- The digits of a fraction and what is behind them. -/
def readFraction : List Char → List Char × List Char
  | '.' :: rest => (rest.takeWhile Text.isDigit, rest.dropWhile Text.isDigit)
  | written => ([], written)

/-- Reads the time of a moment, behind a letter or blanks. -/
def readTime (written : List Char) : Option ((Nat × Nat × Nat × List Char) × Option Int) := do
  let behind ←
    match written with
    | 'T' :: rest => some rest
    | 't' :: rest => some rest
    | character :: rest => if isSpacing character then some (rest.dropWhile isSpacing) else none
    | [] => none
  let (hour, behind) ← takeDigits 1 2 behind
  let (minute, behind) ← (takeCharacter ':' behind).bind (takeDigits 2 2)
  let (second, behind) ← (takeCharacter ':' behind).bind (takeDigits 2 2)
  let (fraction, behind) := readFraction behind
  let zone ← readZone behind
  return ((hour, minute, second, fraction), zone)

/-- Reads a day, or a moment; months and days may have one digit. -/
def readMoment (written : List Char) : Option MomentParts := do
  let (year, behind) ← takeDigits 4 4 written
  let (month, behind) ← (takeCharacter '-' behind).bind (takeDigits 1 2)
  let (day, behind) ← (takeCharacter '-' behind).bind (takeDigits 1 2)
  if behind.isEmpty then return ⟨year, month, day, none, none⟩
  let (time, offset) ← readTime behind
  return ⟨year, month, day, some time, offset⟩

/-- Whether a plain text is a day, with two digits for month and day, or a moment. -/
def isMoment (written : List Char) : Bool :=
  match readMoment written with
  | none => false
  | some parts => parts.time.isSome || written.length == 10

/-- A text without one line feed at its end. -/
def dropLineEnd (written : List Char) : List Char :=
  if written.getLast? = some '\n' then written.dropLast else written

/-- The tag of a plain scalar by the form of its text. A line feed behind the form does not count,
but alone it is no null. -/
def implicit (plain : String) : String :=
  let written := dropLineEnd plain.toList
  let word := String.ofList written
  if truthWords.contains word then truth
  else if isReal written then real
  else if isInteger written then integer
  else if word = "<<" then merge
  else if nullWords.contains word && (plain == "" || word != "") then null
  else if isMoment written then moment
  else if word = "=" then value
  else if word = "!" ∨ word = "&" ∨ word = "*" then indicator
  else text

end Multitarget.Yaml.Tag
