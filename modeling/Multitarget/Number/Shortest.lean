import Multitarget.Number.Binary64
import Multitarget.Text.Integer

/-!
# Shortest decimals

The text of a floating-point number has the fewest digits that read back as the
same number, and of those the nearest to it.
-/

namespace Multitarget.Binary64

/-- The decimal exponent of a positive fraction: the power of ten that it lies at or above and
below ten times of. The guess from the binary lengths is put right by at most a few steps. -/
def decimalExponent (numerator denominator : Nat) : Int :=
  let atLeast (power : Int) : Bool :=
    if 0 ≤ power then decide (denominator * Nat.pow 10 power.toNat ≤ numerator)
    else decide (denominator ≤ numerator * Nat.pow 10 (-power).toNat)
  let rough : Int := ((numerator.log2 : Int) - denominator.log2) * 30103 / 100000
  if atLeast (rough + 1) then rough + 1
  else if atLeast rough then rough
  else if atLeast (rough - 1) then rough - 1
  else rough - 2

/-- The nearest decimal of the given number of digits: its digits and the power of ten of the
last one. -/
def nearestDecimal (numerator denominator : Nat) (count : Nat) : Nat × Int :=
  let power := decimalExponent numerator denominator - (count - 1 : Nat)
  let digits :=
    if 0 ≤ power then roundQuotient numerator (denominator * Nat.pow 10 power.toNat)
    else roundQuotient (numerator * Nat.pow 10 (-power).toNat) denominator
  (digits, power)

/-- Tries more and more digits until the decimal reads back as the number. -/
def shortestFrom (target : Binary64) (numerator denominator : Nat) :
    (tries count : Nat) → Nat × Int
  | 0, count => nearestDecimal numerator denominator count
  | tries + 1, count =>
    let (digits, power) := nearestDecimal numerator denominator count
    if ofDecimal false digits (Text.decimal digits).length power = target then (digits, power)
    else shortestFrom target numerator denominator tries (count + 1)

/-- The digits of the shortest decimal and the exponent of its first digit. -/
def shortest (significand : Nat) (exponent : Int) : List Char × Int :=
  let (numerator, denominator) := toFraction significand exponent
  let (digits, power) :=
    shortestFrom (.finite false significand exponent) numerator denominator 17 1
  let written := Text.decimal digits
  let kept := (written.reverse.dropWhile (· == '0')).reverse
  (kept, power + written.length - 1)

/-- Between these exponents of the first digit a number is written without an exponent. -/
def isPositional (exponent : Int) : Bool :=
  decide (-4 ≤ exponent) && decide (exponent < 16)

/-- The digits with a point behind the digit of exponent zero and at least one digit after it. -/
def positional (digits : List Char) (exponent : Int) : List Char :=
  if exponent < 0 then
    '0' :: '.' :: (List.replicate ((-exponent).toNat - 1) '0' ++ digits)
  else
    let before := exponent.toNat + 1
    let whole := digits.take before ++ List.replicate (before - digits.length) '0'
    let fraction := digits.drop before
    whole ++ '.' :: (if fraction.isEmpty then ['0'] else fraction)

/-- The digits with a point behind the first and an exponent of at least two digits. -/
def exponential (digits : List Char) (exponent : Int) : List Char :=
  let mantissa :=
    match digits with
    | [] => []
    | [digit] => [digit]
    | digit :: rest => digit :: '.' :: rest
  let size := Text.decimal exponent.natAbs
  mantissa ++ 'e' :: (if exponent < 0 then '-' else '+')
    :: (if size.length < 2 then '0' :: size else size)

/-- The text of a number. -/
def render : Binary64 → List Char
  | .undefined => "nan".toList
  | .infinite negative => if negative then "-inf".toList else "inf".toList
  | .finite negative significand exponent =>
    let size :=
      if significand = 0 then "0.0".toList
      else
        let (digits, power) := shortest significand exponent
        if isPositional power then positional digits power else exponential digits power
    if negative then '-' :: size else size

end Multitarget.Binary64
