import Multitarget.Schema.Checked
import Multitarget.Text.Blank

/-!
# Checks of single values

Values are read generously where nothing is lost: a number may be written as a
text, a truth value as a word or as zero or one, and bytes as a text.
-/

namespace Multitarget.Schema

/-- Whole numbers that fit into 64 bits with a sign. -/
def fitsWord (number : Int) : Bool :=
  decide (-9223372036854775808 ≤ number) && decide (number ≤ 9223372036854775807)

/-- Whole numbers that numbers with a fraction may stand for: the least one that fits into 64 bits
is left out. -/
def isWithinWord (number : Int) : Bool :=
  decide (-9223372036854775808 < number) && decide (number ≤ 9223372036854775807)

/-- Reads a text; bytes count as the text that they encode. -/
def text : Value → Checked String
  | .text value => .valid value
  | .bytes value =>
    match Text.Utf8.decode value with
    | .ok decoded => .valid (String.ofList decoded)
    | .error _ => .fail .textEncoding
  | _ => .fail .textType

/-- Reads a text that is not empty. -/
def fullText (value : Value) : Checked String :=
  (text value).bind fun value => if value = "" then .fail .textTooShort else .valid value

/-- Reads a text of a given form. -/
def matching (pattern : String) (test : String → Bool) (value : Value) : Checked String :=
  (text value).bind fun value => if test value then .valid value else .fail (.textPattern pattern)

/-- Reads bytes; a text counts as the bytes of its encoding. -/
def bytes : Value → Checked Text.Bytes
  | .bytes value => .valid value
  | .text value => .valid (Text.Utf8.encode value)
  | _ => .fail .bytesType

/-- Reads one of several named choices. -/
def choice {α : Type} (options : List (String × α)) (value : Value) : Checked α :=
  let refused : Checked α := .fail (.choice (options.map Prod.fst))
  match text value with
  | .invalid _ => refused
  | .valid name =>
    match options.find? fun option => option.1 == name with
    | some option => .valid option.2
    | none => refused

/-- Why a text is no plain numeral. -/
inductive NumeralFault where
  | malformed
  /-- More characters than a numeral may have. -/
  | tooLong

/-- The sign of a written number and the rest of it. -/
def splitMinus : List Char → Bool × List Char
  | '-' :: rest => (true, rest)
  | written => (false, written)

/-- Reads a numeral that is just a minus sign or none, and digits without a zero ahead of others.
That it is too long comes before what is wrong behind the digits. -/
def plainNumeral (written : List Char) : Except NumeralFault Int :=
  let (negative, size) := splitMinus written
  let digits := size.takeWhile Text.isDigit
  let length := digits.length + if negative then 1 else 0
  if digits.head? != some '0' && decide (Text.numeralLimit < length) then .error .tooLong
  else if digits.length < size.length || (digits.head? == some '0' && 1 < digits.length) then
    .error .malformed
  else
    match Text.numeral 10 digits with
    | some number => .ok (if negative then -(number : Int) else number)
    | none => .error .malformed

/-- Passes the zeros and underscores behind a first character, up to a digit or a minus sign. One
character before a point or the end stays. -/
def passZeros (last : Char) : List Char → Option (List Char)
  | [] => some [last]
  | character :: rest =>
    if character = '0' ∨ character = '_' then passZeros character rest
    else if character = '.' then some (last :: character :: rest)
    else if Text.isDigit character ∨ character = '-' then some (character :: rest)
    else none

/-- The text without the zeros that a number starts with. -/
def dropLeadingZeros : List Char → Option (List Char)
  | [] => none
  | '0' :: rest => passZeros '0' rest
  | first :: rest => if Text.isDigit first ∨ first = '-' then some (first :: rest) else none

/-- The text without a point and nothing but zeros behind it. -/
def dropZeroFraction (written : List Char) : List Char :=
  match written.dropWhile (· != '.') with
  | [] => written
  | _ :: fraction =>
    if fraction.isEmpty || !fraction.all (· == '0') then written
    else written.takeWhile (· != '.')

/-- Whether underscores stand neither at an end nor beside each other. -/
def separatesGroups : (before : Bool) → List Char → Bool
  | before, [] => before
  | before, character :: rest =>
    if character = '_' then before && separatesGroups false rest else separatesGroups true rest

/-- The text without underscores, if they only separate groups. -/
def dropGroups (written : List Char) : List Char :=
  if separatesGroups false written then written.filter (· != '_') else written

/-- The text without a plus sign, which no minus sign may follow. -/
def dropPlus : List Char → Option (List Char)
  | '+' :: '-' :: _ => none
  | '+' :: rest => some rest
  | written => some written

/-- The plain form of a number that is written with white space around it, a plus sign, zeros ahead,
a fraction of zeros, or digits in groups. -/
def plainForm (written : List Char) : Option (List Char) := do
  let unsigned ← dropPlus (Text.trimWhile Text.isWhiteSpace written)
  let size ← dropLeadingZeros unsigned
  return dropGroups (dropZeroFraction size)

/-- Reads a whole number written as a text: a plain numeral, or what has the form of one. -/
def writtenInt (written : String) : Checked Int :=
  match plainNumeral written.toList with
  | .ok number => .valid number
  | .error .tooLong => .fail .intSize
  | .error .malformed =>
    match plainNumeral <$> plainForm written.toList with
    | some (.ok number) => .valid number
    | _ => .fail .intParsing

/-- Reads a whole number. -/
def int : Value → Checked Int
  | .int value => .valid value
  | .bool value => .valid (if value then 1 else 0)
  | .real value =>
    if value.isFinite then
      match value.toInt? with
      | none => .fail .intFromFraction
      | some whole => if isWithinWord whole then .valid whole else .fail .intSize
    else .fail .finiteNumber
  | .text value => writtenInt value
  | .bytes value =>
    match Text.Utf8.decode value with
    | .ok decoded => writtenInt (String.ofList decoded)
    | .error _ => .fail .intParsing
  | _ => .fail .intType

/-- Reads a whole number that is not negative. -/
def nat (value : Value) : Checked Nat :=
  (int value).bind fun number =>
    match number with
    | .ofNat size => .valid size
    | .negSucc _ => .fail .negative

/-- Words for truth values, in lower case. -/
def truthWords : List (String × Bool) :=
  [("0", false), ("off", false), ("f", false), ("false", false), ("n", false), ("no", false),
    ("1", true), ("on", true), ("t", true), ("true", true), ("y", true), ("yes", true)]

/-- Reads a truth value written as a word, in any case. -/
def writtenBool (written : String) : Checked Bool :=
  match truthWords.find? fun entry => entry.1.toList == written.toList.map Char.toLower with
  | some entry => .valid entry.2
  | none => .fail .boolParsing

/-- Reads zero or one as a truth value. -/
def numberBool (number : Int) : Checked Bool :=
  if number = 0 then .valid false
  else if number = 1 then .valid true
  else if fitsWord number then .fail .boolParsing
  else .fail .boolType

/-- Reads a truth value. -/
def bool : Value → Checked Bool
  | .bool value => .valid value
  | .int value => numberBool value
  | .real value =>
    match value.toInt? with
    | some whole => if isWithinWord whole then numberBool whole else .fail .boolType
    | none => .fail .boolType
  | .text value => writtenBool value
  | .bytes value =>
    match Text.Utf8.decode value with
    | .ok decoded => writtenBool (String.ofList decoded)
    | .error _ => .fail .boolParsing
  | _ => .fail .boolType

/-- Reads null as nothing, and every other value as something. -/
def optional {α : Type} (check : Value → Checked α) : Value → Checked (Option α)
  | .null => .valid none
  | value => (check value).map some

/-- Reads a list; members of a set and items of a tuple count as its items. -/
def list {α : Type} (check : Value → Checked α) : Value → Checked (List α)
  | .list items => .items check 0 items
  | .tuple items => .items check 0 items
  | .set items => .items check 0 items
  | _ => .fail .listType

end Multitarget.Schema
