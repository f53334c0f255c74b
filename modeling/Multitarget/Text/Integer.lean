/-!
# Numerals

Reading and writing of whole numbers in a base, digit by digit.
-/

namespace Multitarget.Text

/-- The value of an ASCII digit or letter as a digit, letters counting from ten. -/
def digitValue (character : Char) : Option Nat :=
  let code := character.toNat
  if 48 ≤ code ∧ code ≤ 57 then some (code - 48)
  else if 97 ≤ code ∧ code ≤ 122 then some (code - 87)
  else if 65 ≤ code ∧ code ≤ 90 then some (code - 55)
  else none

/-- The value of a character as a digit of the base. -/
def digitOf (base : Nat) (character : Char) : Option Nat :=
  match digitValue character with
  | some value => if value < base then some value else none
  | none => none

/-- Whether the character is an ASCII decimal digit. -/
def isDigit (character : Char) : Bool :=
  decide (48 ≤ character.toNat) && decide (character.toNat ≤ 57)

/-- Whether the character is a hexadecimal digit. -/
def isHexDigit (character : Char) : Bool :=
  (digitOf 16 character).isSome

/-- The number that the digits continue, `none` if a character is no digit of the base. -/
def numeralFrom (base : Nat) : Nat → List Char → Option Nat
  | total, [] => some total
  | total, character :: rest =>
    match digitOf base character with
    | some value => numeralFrom base (total * base + value) rest
    | none => none

/-- The number written by one or more digits of the base. -/
def numeral (base : Nat) (text : List Char) : Option Nat :=
  if text.isEmpty then none else numeralFrom base 0 text

/-- The decimal digits of a number, ahead of digits already written. -/
def decimalAux (fuel number : Nat) (written : List Char) : List Char :=
  match fuel with
  | 0 => written
  | fuel + 1 =>
    let written := Char.ofNat (48 + number % 10) :: written
    if number < 10 then written else decimalAux fuel (number / 10) written

/-- The decimal digits of a number, no leading zeros. -/
def decimal (number : Nat) : List Char :=
  decimalAux (number + 1) number []

/-- The decimal numeral of a whole number, with a minus sign if it is negative. -/
def integer : Int → List Char
  | .ofNat number => decimal number
  | .negSucc number => '-' :: decimal (number + 1)

/-- The longest decimal numeral that is read, in digits. -/
def numeralLimit : Nat := 4300

/-- The wording of the limit on numerals. -/
def longNumeralMessage (digits : Nat) : String :=
  "Exceeds the limit (4300 digits) for integer string conversion: value has "
    ++ String.ofList (decimal digits)
    ++ " digits; use sys.set_int_max_str_digits() to increase the limit"

/-- The wording of the limit on numbers whose numerals are written. -/
def longNumberMessage : String :=
  "Exceeds the limit (4300 digits) for integer string conversion; "
    ++ "use sys.set_int_max_str_digits() to increase the limit"

/-- The lower-case hexadecimal digit of a value below sixteen. -/
def hexDigit (value : Nat) : Char :=
  if value < 10 then Char.ofNat (48 + value) else Char.ofNat (87 + value)

/-- The last `width` hexadecimal digits of a number, lower case. -/
def hexadecimal : (width number : Nat) → List Char
  | 0, _ => []
  | width + 1, number => hexadecimal width (number / 16) ++ [hexDigit (number % 16)]

end Multitarget.Text
