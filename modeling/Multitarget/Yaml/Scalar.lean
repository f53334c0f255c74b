import Multitarget.Data.Value
import Multitarget.Text.Base64
import Multitarget.Text.Blank
import Multitarget.Text.DecimalDigit
import Multitarget.Text.LowerCase
import Multitarget.Yaml.Tag
import Multitarget.Yaml.Error

/-!
# The values of scalars

A scalar's text is read by the rules of its tag. Digits of numbers may be
grouped by underscores, and numbers may be written in base sixty.
-/

namespace Multitarget.Yaml.Scalar

/-- The value of a character as a digit of any script or as a letter. -/
def digitOf (base : Nat) (character : Char) : Option Nat :=
  match Text.decimalDigit character with
  | some value => if value < base then some value else none
  | none => Text.digitOf base character

/-- Digits at the start of a text: the number they write, how many they are, and what follows. -/
structure DigitRun where
  number : Nat
  count : Nat
  rest : List Char

/-- Reads digits of which single underscores may separate groups; `grouped` tells that an
underscore may come next. -/
def readDigits (base : Nat) : (grouped : Bool) → (number count : Nat) → List Char →
    Option DigitRun
  | grouped, number, count, [] => if grouped then some ⟨number, count, []⟩ else none
  | grouped, number, count, character :: rest =>
    if character = '_' then
      if grouped then readDigits base false number count rest else none
    else
      match digitOf base character with
      | some value => readDigits base true (number * base + value) (count + 1) rest
      | none => if grouped then some ⟨number, count, character :: rest⟩ else none

/-- The letter that announces a base behind a zero. -/
def baseLetter (base : Nat) : Option Char :=
  if base = 2 then some 'b' else if base = 8 then some 'o' else if base = 16 then some 'x' else none

/-- The text without a zero and the letter of its base. -/
def dropBase (base : Nat) : List Char → List Char
  | '0' :: letter :: rest =>
    if (baseLetter base).any fun expected => letter.toLower == expected then
      match rest with
      | '_' :: rest => rest
      | _ => rest
    else '0' :: letter :: rest
  | written => written

/-- The sign of a written number and the rest of it. -/
def splitSign : List Char → Bool × List Char
  | '-' :: rest => (true, rest)
  | '+' :: rest => (false, rest)
  | written => (false, written)

/-- Reads a whole number in a base: white space around it, a sign, and digits in groups. That there
are too many decimal digits comes before what is wrong behind them. -/
def readInteger (base : Nat) (written : List Char) : Except Mismatch Int :=
  let (negative, digits) := splitSign (Text.trimWhile Text.isWhiteSpace written)
  match readDigits base false 0 0 (dropBase base digits) with
  | none => .error (.integer base (String.ofList written))
  | some run =>
    if base = 10 ∧ Text.numeralLimit < run.count then .error (.longInteger run.count)
    else if run.rest.isEmpty then .ok (if negative then -(run.number : Int) else run.number)
    else .error (.integer base (String.ofList written))

/-- The value of groups in base sixty. -/
def sexagesimal (groups : List Int) : Int :=
  groups.foldl (fun total group => total * 60 + group) 0

/-- The text without underscores. -/
def dropGroups (written : List Char) : List Char := written.filter (· != '_')

/-- Reads a whole number by its form. -/
def integer (written : List Char) : Except Mismatch Int := do
  let (negative, size) := splitSign (dropGroups written)
  let signed (number : Int) : Int := if negative then -number else number
  match size with
  | [] => .error .emptyNumber
  | ['0'] => return 0
  | '0' :: 'b' :: digits => signed <$> readInteger 2 digits
  | '0' :: 'x' :: digits => signed <$> readInteger 16 digits
  | '0' :: _ => signed <$> readInteger 8 size
  | _ =>
    if size.contains ':' then
      let groups ← (Tag.colonPieces size).mapM (readInteger 10)
      return signed (sexagesimal groups)
    else signed <$> readInteger 10 size

/-- Digits of any script as ASCII digits. -/
def plainDigits (written : List Char) : List Char :=
  written.map fun character =>
    match Text.decimalDigit character with
    | some value => Char.ofNat (48 + value)
    | none => character

/-- Whether single underscores stand between digits only. -/
def underscoresFit : (digitBefore : Bool) → List Char → Bool
  | _, [] => true
  | digitBefore, '_' :: next :: rest =>
    digitBefore && Text.isDigit next && underscoresFit true rest
  | _, ['_'] => false
  | _, character :: rest => underscoresFit (Text.isDigit character) rest

/-- A decimal: its digits, how many they are, and the power of ten of the last one. -/
structure Decimal where
  digits : Nat
  count : Nat
  power : Int

/-- Reads a decimal with a point and an exponent, each of which may be missing. -/
def readDecimal (written : List Char) : Option Decimal :=
  let whole := written.takeWhile Text.isDigit
  let behind := written.drop whole.length
  let (fraction, behind) :=
    match behind with
    | '.' :: rest => (rest.takeWhile Text.isDigit, rest.dropWhile Text.isDigit)
    | _ => ([], behind)
  if whole.isEmpty && fraction.isEmpty then none
  else
    let power : Option Int :=
      match behind with
      | [] => some 0
      | mark :: rest =>
        if mark = 'e' ∨ mark = 'E' then
          let (negative, digits) := splitSign rest
          if digits.all Text.isDigit then
            (Text.numeral 10 digits).map fun size => if negative then -(size : Int) else size
          else none
        else none
    power.map fun power =>
      ⟨(Text.numeral 10 (whole ++ fraction)).getD 0, whole.length + fraction.length,
        power - fraction.length⟩

/-- Reads a number with a fraction: white space around it, a sign, a decimal or a word. -/
def readReal (written : List Char) : Except Mismatch Binary64 :=
  let trimmed := plainDigits (Text.trimWhile Text.isWhiteSpace written)
  let (negative, size) := splitSign trimmed
  let word := String.ofList (size.map Char.toLower)
  if word = "inf" ∨ word = "infinity" then .ok (.infinite negative)
  else if word = "nan" then .ok .undefined
  else
    match if underscoresFit false size then readDecimal (dropGroups size) else none with
    | some decimal => .ok (.ofDecimal negative decimal.digits decimal.count decimal.power)
    | none => .error (.real (String.ofList written))

/-- Adds groups in base sixty to a sum, the last group first. The weight of each has to be near a
number of the format. -/
def addGroups (sum : Binary64) (weight : Nat) : List Binary64 → Except Mismatch Binary64
  | [] => .ok sum
  | group :: before =>
    match Binary64.ofInt weight with
    | .infinite _ => .error .largeWeight
    | factor => addGroups (sum.plus (group.times factor)) (weight * 60) before

/-- The value of groups in base sixty. -/
def sexagesimalReal (groups : List Binary64) : Except Mismatch Binary64 :=
  addGroups (.finite false 0 Binary64.leastExponent) 1 groups.reverse

/-- Reads a number with a fraction by its form. -/
def real (written : List Char) : Except Mismatch Binary64 := do
  let (negative, size) := splitSign (Text.lowerList (dropGroups written))
  let signed (number : Binary64) : Binary64 := if negative then number.negate else number
  if size.isEmpty then .error .emptyNumber
  if size = ".inf".toList then return .infinite negative
  if size = ".nan".toList then return .undefined
  if size.contains ':' then
    let groups ← (Tag.colonPieces size).mapM readReal
    return signed (← sexagesimalReal groups)
  signed <$> readReal size

/-- Reads a truth value. -/
def truth (written : List Char) : Except Mismatch Bool :=
  let word := String.ofList (Text.lowerList written)
  if word = "yes" ∨ word = "true" ∨ word = "on" then .ok true
  else if word = "no" ∨ word = "false" ∨ word = "off" then .ok false
  else .error (.truth word)

/-- The microseconds that the digits of a fraction write; more than six are cut off. -/
def microseconds (fraction : List Char) : Nat :=
  let digits := fraction.take 6
  (Text.numeral 10 (digits ++ List.replicate (6 - digits.length) '0')).getD 0

/-- Reads a day or a moment. -/
def moment (written : List Char) : Except Mismatch Value :=
  match Tag.readMoment (Tag.dropLineEnd written) with
  | none => .error .moment
  | some parts =>
    match parts.time with
    | none =>
      match Date.check parts.year parts.month parts.day with
      | .ok date => .ok (.date date)
      | .error error => .error (.calendar error)
    | some (hour, minute, second, fraction) =>
      match Moment.check parts.year parts.month parts.day hour minute second
          (microseconds fraction) parts.offset with
      | .ok moment => .ok (.moment moment)
      | .error error => .error (.calendar error)

/-- The first run of characters that are not ASCII, and its position. -/
def notAscii (written : List Char) : Option (List Char × Nat) :=
  let isAscii (character : Char) : Bool := decide (character.toNat < 128)
  let before := (written.takeWhile isAscii).length
  match written.drop before with
  | [] => none
  | rest => some (rest.takeWhile fun character => !isAscii character, before)

/-- Reads binary data. -/
def binary (written : List Char) : Except Problem Text.Bytes :=
  match notAscii written with
  | some (characters, position) => .error (.notAscii characters position)
  | none =>
    match Text.Base64.decode written with
    | .ok bytes => .ok bytes
    | .error failure => .error (.base64 failure)

/-- The value of a scalar by its tag; `none` if the tag is not one of a scalar. -/
def value? (tag : String) (written : String) (mark : Mark) : Option (Except Error Value) :=
  let text := written.toList
  let matching {α : Type} (wrap : α → Value) (result : Except Mismatch α) : Except Error Value :=
    match result with
    | .ok value => .ok (wrap value)
    | .error mismatch => .error (.mismatch mismatch mark)
  if tag = Tag.text then some (.ok (.text written))
  else if tag = Tag.null then some (.ok .null)
  else if tag = Tag.truth then some (matching .bool (truth text))
  else if tag = Tag.integer then some (matching .int (integer text))
  else if tag = Tag.real then some (matching .real (real text))
  else if tag = Tag.moment then some (matching id (moment text))
  else if tag = Tag.binary then
    some (match binary text with
      | .ok bytes => .ok (.bytes bytes)
      | .error problem => .error (.problem problem mark))
  else none

end Multitarget.Yaml.Scalar
