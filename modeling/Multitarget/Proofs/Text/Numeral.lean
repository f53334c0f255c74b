import Multitarget.Text.Integer

/-!
# Numerals are read back

Decimal and hexadecimal numerals stand for the numbers that they were written for. A
decimal numeral holds digits only and starts with a zero only for the number zero, so it
ends where the digits end.
-/

namespace Multitarget.Text

/-! ## Decimal numerals -/

theorem decimalAux_append (fuel number : Nat) (written : List Char) :
    decimalAux fuel number written = decimalAux fuel number [] ++ written := by
  induction fuel generalizing number written with
  | zero => rfl
  | succ fuel ih =>
      simp only [decimalAux]
      split
      · rfl
      · rw [ih, ih _ [_], List.append_assoc]
        rfl

theorem decimalAux_congr {fuel other number : Nat} (enough : number < fuel)
    (enoughOther : number < other) :
    decimalAux fuel number [] = decimalAux other number [] := by
  induction fuel generalizing other number with
  | zero => omega
  | succ fuel ih =>
      obtain ⟨other, rfl⟩ : ∃ less, other = less + 1 := ⟨other - 1, by omega⟩
      simp only [decimalAux]
      split
      · rfl
      · have shorter : decimalAux fuel (number / 10) [] = decimalAux other (number / 10) [] :=
          ih (by omega) (by omega)
        rw [decimalAux_append, decimalAux_append other, shorter]

theorem decimal_of_lt {number : Nat} (small : number < 10) :
    decimal number = [Char.ofNat (48 + number)] := by
  simp [decimal, decimalAux, small, Nat.mod_eq_of_lt small]

theorem decimal_of_le {number : Nat} (large : 10 ≤ number) :
    decimal number = decimal (number / 10) ++ [Char.ofNat (48 + number % 10)] := by
  rw [decimal, decimalAux, if_neg (by omega), decimalAux_append,
    @decimalAux_congr number (number / 10 + 1) (number / 10) (by omega) (by omega), decimal]

/-- Follows the digits of a number from the last to the first. -/
theorem decimal_induction {motive : Nat → Prop} (digit : ∀ number < 10, motive number)
    (further : ∀ number, 10 ≤ number → motive (number / 10) → motive number) (number : Nat) :
    motive number := by
  induction number using Nat.strongRecOn with
  | ind number ih =>
      by_cases small : number < 10
      · exact digit number small
      · exact further number (by omega) (ih _ (by omega))

theorem decimal_ne_nil (number : Nat) : decimal number ≠ [] := by
  by_cases small : number < 10
  · simp [decimal_of_lt small]
  · simp [decimal_of_le (by omega : 10 ≤ number)]

theorem digitOf_ten : ∀ digit < 10, digitOf 10 (Char.ofNat (48 + digit)) = some digit := by
  decide

theorem isDigit_ofNat : ∀ digit < 10, isDigit (Char.ofNat (48 + digit)) = true := by
  decide

theorem ne_of_isDigit {character other : Char} (digit : isDigit character = true)
    (noDigit : isDigit other = false) : character ≠ other := by
  rintro rfl
  rw [digit] at noDigit
  cases noDigit

theorem isDigit_of_mem_decimal {number : Nat} {character : Char}
    (listed : character ∈ decimal number) : isDigit character = true := by
  induction number using decimal_induction with
  | digit number small =>
      rw [decimal_of_lt small, List.mem_singleton] at listed
      exact listed ▸ isDigit_ofNat number small
  | further number large ih =>
      rw [decimal_of_le large, List.mem_append, List.mem_singleton] at listed
      rcases listed with early | rfl
      · exact ih early
      · exact isDigit_ofNat _ (Nat.mod_lt _ (by decide))

theorem not_mem_decimal {number : Nat} {character : Char} (noDigit : isDigit character = false) :
    character ∉ decimal number :=
  fun listed => ne_of_isDigit (isDigit_of_mem_decimal listed) noDigit rfl

theorem exists_decimal_cons (number : Nat) :
    ∃ first rest, decimal number = first :: rest ∧ isDigit first = true := by
  obtain ⟨first, rest, digits⟩ := List.exists_cons_of_ne_nil (decimal_ne_nil number)
  exact ⟨first, rest, digits, isDigit_of_mem_decimal (digits ▸ List.mem_cons_self)⟩

/-- Only zero has a numeral that starts with the digit zero. -/
theorem head?_decimal_zero {number : Nat} (zero : (decimal number).head? = some '0') :
    number = 0 := by
  induction number using decimal_induction with
  | digit number small =>
      rw [decimal_of_lt small] at zero
      revert zero
      exact (by decide : ∀ digit < 10, [Char.ofNat (48 + digit)].head? = some '0' → digit = 0)
        number small
  | further number large ih =>
      obtain ⟨first, rest, digits⟩ := List.exists_cons_of_ne_nil (decimal_ne_nil (number / 10))
      rw [decimal_of_le large, digits, List.cons_append, List.head?_cons] at zero
      have none : number / 10 = 0 := ih (by rw [digits, List.head?_cons, zero])
      omega

theorem numeralFrom_append (base total : Nat) (first second : List Char) :
    numeralFrom base total (first ++ second) =
      (numeralFrom base total first).bind fun sum => numeralFrom base sum second := by
  induction first generalizing total with
  | nil => rfl
  | cons character rest ih =>
      simp only [List.cons_append, numeralFrom]
      cases digitOf base character with
      | none => rfl
      | some value => exact ih _

theorem numeralFrom_decimal (number : Nat) :
    numeralFrom 10 0 (decimal number) = some number := by
  induction number using decimal_induction with
  | digit number small =>
      rw [decimal_of_lt small]
      simp [numeralFrom, digitOf_ten number small]
  | further number large ih =>
      rw [decimal_of_le large, numeralFrom_append, ih]
      simp only [Option.bind_some, numeralFrom, digitOf_ten _ (Nat.mod_lt number (by decide))]
      congr 1
      omega

/-- A decimal numeral stands for the number it was written for. -/
theorem numeral_decimal (number : Nat) : numeral 10 (decimal number) = some number := by
  simp [numeral, decimal_ne_nil, numeralFrom_decimal]

theorem decimal_inj {left right : Nat} (same : decimal left = decimal right) : left = right :=
  Option.some.inj (by rw [← numeral_decimal left, same, numeral_decimal])

/-! ## Hexadecimal numerals -/

theorem digitOf_hexDigit : ∀ value < 16, digitOf 16 (hexDigit value) = some value := by
  decide

/-- Four hexadecimal digits stand for the number they were written for, if it has no more. -/
theorem numeral_hexadecimal {number : Nat} (small : number < 0x10000) :
    numeral 16 (hexadecimal 4 number) = some number := by
  have digit : ∀ other, digitOf 16 (hexDigit (other % 16)) = some (other % 16) :=
    fun other => digitOf_hexDigit _ (Nat.mod_lt _ (by decide))
  simp only [hexadecimal, List.nil_append, List.cons_append, numeral, List.isEmpty_cons,
    numeralFrom, digit]
  simp only [Bool.false_eq_true, if_false, Option.some.injEq]
  omega

end Multitarget.Text
