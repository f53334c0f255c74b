/-!
# Binary floating-point numbers

Numbers of the 64-bit binary format as exact values: a significand below
`2 ^ 53` times a power of two, the infinities and one value that is no number.
Decimals are rounded to the nearest of them, a tie to the even significand.
-/

namespace Multitarget

/-- A number of the 64-bit binary format. -/
inductive Binary64 where
  /-- No number. -/
  | undefined
  /-- Larger than every finite number in its direction. -/
  | infinite (negative : Bool)
  /-- The significand times two to the exponent. -/
  | finite (negative : Bool) (significand : Nat) (exponent : Int)
  deriving DecidableEq, Repr

namespace Binary64

/-- Significands have this many bits. -/
def precision : Nat := 53

/-- The exponent of the smallest numbers. -/
def leastExponent : Int := -1074

/-- The exponent of the greatest numbers. -/
def greatestExponent : Int := 971

/-- The quotient rounded to the nearest whole number, a tie to the even one. -/
def roundQuotient (numerator denominator : Nat) : Nat :=
  let floor := numerator / denominator
  let rest := 2 * (numerator % denominator)
  if rest < denominator then floor
  else if rest = denominator then floor + floor % 2
  else floor + 1

/-- `numerator / (denominator * 2 ^ exponent)` as a numerator and a denominator. -/
def scaled (numerator denominator : Nat) (exponent : Int) : Nat × Nat :=
  if 0 ≤ exponent then (numerator, denominator * Nat.pow 2 exponent.toNat)
  else (numerator * Nat.pow 2 (-exponent).toNat, denominator)

/-- The exponent at which the quotient has a significand of full length, or the least one. -/
def exponentOf (numerator denominator : Nat) : Int :=
  let guess : Int := (numerator.log2 : Int) - denominator.log2 - 52
  let (top, bottom) := scaled numerator denominator guess
  let exact := if top < bottom * Nat.pow 2 52 then guess - 1 else guess
  max exact leastExponent

/-- The number nearest to a quotient. -/
def ofQuotient (negative : Bool) (numerator denominator : Nat) : Binary64 :=
  if numerator = 0 then .finite negative 0 leastExponent
  else
    let exponent := exponentOf numerator denominator
    let (top, bottom) := scaled numerator denominator exponent
    let significand := roundQuotient top bottom
    let (significand, exponent) :=
      if significand = Nat.pow 2 precision then (Nat.pow 2 (precision - 1), exponent + 1)
      else (significand, exponent)
    if greatestExponent < exponent then .infinite negative
    else .finite negative significand exponent

/-- The number nearest to `digits * 10 ^ power`, where `digits` has `count` digits. Powers far
outside the range of the format are settled without computing them. -/
def ofDecimal (negative : Bool) (digits count : Nat) (power : Int) : Binary64 :=
  if digits = 0 then .finite negative 0 leastExponent
  else if 400 < power then .infinite negative
  else if power + count < -400 then .finite negative 0 leastExponent
  else if 0 ≤ power then ofQuotient negative (digits * Nat.pow 10 power.toNat) 1
  else ofQuotient negative digits (Nat.pow 10 (-power).toNat)

/-- The number nearest to a whole number. -/
def ofInt (number : Int) : Binary64 :=
  ofQuotient (decide (number < 0)) number.natAbs 1

/-- The whole number that a number equals, if it equals one. -/
def toInt? : Binary64 → Option Int
  | .undefined => none
  | .infinite _ => none
  | .finite negative significand exponent =>
    let signed (size : Nat) : Int := if negative then -(size : Int) else size
    if 0 ≤ exponent then some (signed (significand * Nat.pow 2 exponent.toNat))
    else if significand % Nat.pow 2 (-exponent).toNat = 0 then
      some (signed (significand / Nat.pow 2 (-exponent).toNat))
    else none

/-- Whether the number is a finite one. -/
def isFinite : Binary64 → Bool
  | .finite _ _ _ => true
  | _ => false

/-- Whether two numbers are equal as numbers: the zeros are, and nothing equals what is no
number. -/
def equal : Binary64 → Binary64 → Bool
  | .finite first significand exponent, .finite second other power =>
    (significand == 0 && other == 0) ||
      (first == second && significand == other && exponent == power)
  | .infinite first, .infinite second => first == second
  | _, _ => false

/-- The negated number. -/
def negate : Binary64 → Binary64
  | .undefined => .undefined
  | .infinite negative => .infinite !negative
  | .finite negative significand exponent => .finite (!negative) significand exponent

/-- A significand times two to the exponent as a fraction: numerator and denominator. -/
def toFraction (significand : Nat) (exponent : Int) : Nat × Nat :=
  if 0 ≤ exponent then (significand * Nat.pow 2 exponent.toNat, 1)
  else (significand, Nat.pow 2 (-exponent).toNat)

/-- A numerator with the sign of its number. -/
def signed (negative : Bool) (numerator : Nat) : Int :=
  if negative then -(numerator : Int) else numerator

/-- The number nearest to the sum of two numbers. -/
def plus : Binary64 → Binary64 → Binary64
  | .finite first significand exponent, .finite second other power =>
    let (top, bottom) := toFraction significand exponent
    let (numerator, denominator) := toFraction other power
    let sum := signed first top * denominator + signed second numerator * bottom
    ofQuotient (decide (sum < 0)) sum.natAbs (bottom * denominator)
  | .infinite first, .infinite second => if first = second then .infinite first else .undefined
  | .infinite first, .finite _ _ _ => .infinite first
  | .finite _ _ _, .infinite second => .infinite second
  | _, _ => .undefined

/-- The number nearest to the product of two numbers. -/
def times : Binary64 → Binary64 → Binary64
  | .finite first significand exponent, .finite second other power =>
    let (top, bottom) := toFraction significand exponent
    let (numerator, denominator) := toFraction other power
    ofQuotient (first != second) (top * numerator) (bottom * denominator)
  | .infinite first, .infinite second => .infinite (first != second)
  | .infinite first, .finite second significand _ =>
    if significand = 0 then .undefined else .infinite (first != second)
  | .finite first significand _, .infinite second =>
    if significand = 0 then .undefined else .infinite (first != second)
  | _, _ => .undefined

end Binary64

end Multitarget
