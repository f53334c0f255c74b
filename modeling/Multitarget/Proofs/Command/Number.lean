import Multitarget.Command.Arguments
import Multitarget.Proofs.Text.Numeral

/-!
# Numbers on a command line

A setting that takes a whole number takes every numeral that is not too long, and the positions
of a completion are what their numerals stand for.
-/

namespace Multitarget

namespace Text

variable {text : List Char} {test : Char → Bool} {character : Char}

theorem dropWhile_of_forall (kept : ∀ character ∈ text, test character = false) :
    text.dropWhile test = text := by
  cases text with
  | nil => rfl
  | cons first rest => simp [kept first List.mem_cons_self]

/-- Nothing is trimmed where nothing satisfies the test. -/
theorem trimWhile_of_forall (kept : ∀ character ∈ text, test character = false) :
    trimWhile test text = text := by
  have backwards : ∀ character ∈ text.reverse, test character = false :=
    fun character listed => kept character (List.mem_reverse.mp listed)
  rw [trimWhile, dropEndWhile, dropWhile_of_forall kept, dropWhile_of_forall backwards,
    List.reverse_reverse]

theorem code_of_isDigit (digit : isDigit character = true) :
    48 ≤ character.toNat ∧ character.toNat ≤ 57 := by
  simpa [isDigit] using digit

theorem isBlank_of_isDigit (digit : isDigit character = true) : isBlank character = false := by
  obtain ⟨low, high⟩ := code_of_isDigit digit
  simp only [isBlank, isWhiteSpace, Bool.or_eq_false_iff, Bool.and_eq_false_iff,
    decide_eq_false_iff_not, beq_eq_false_iff_ne]
  omega

/-- A digit of all scripts is read as the digit that it is. -/
theorem decimalDigit_of_isDigit (digit : isDigit character = true) :
    decimalDigit character = digitOf 10 character := by
  obtain ⟨low, high⟩ := code_of_isDigit digit
  have first : (zeroDigits.find? fun start =>
      decide (start ≤ character.toNat) && decide (character.toNat < start + 10)) = some 48 := by
    have inside : (decide (48 ≤ character.toNat) && decide (character.toNat < 48 + 10)) = true := by
      simp only [Bool.and_eq_true, decide_eq_true_eq]
      omega
    exact List.find?_cons_of_pos inside
  have small : character.toNat - 48 < 10 := by omega
  simp [decimalDigit, first, digitOf, digitValue, low, high, small]

end Text

namespace Arguments

open Text (isDigit)

variable {written : List Char}

/-- Digits alone are read like a numeral. -/
theorem digitsNumber_eq (digits : ∀ character ∈ written, isDigit character = true)
    (some : written ≠ []) (sum : Nat) :
    digitsNumber sum written = Text.numeralFrom 10 sum written := by
  induction written generalizing sum with
  | nil => exact absurd rfl some
  | cons first rest ih =>
      obtain ⟨digit, digitsRest⟩ := List.forall_mem_cons.mp digits
      cases rest with
      | nil =>
          rw [digitsNumber, Text.decimalDigit_of_isDigit digit, Text.numeralFrom]
          cases Text.digitOf 10 first with
          | none => rfl
          | some value => simp [Text.numeralFrom, Nat.mul_comm]
      | cons second others =>
          have noGap : second ≠ '_' :=
            Text.ne_of_isDigit (digitsRest second List.mem_cons_self) (by decide)
          rw [digitsNumber, Text.decimalDigit_of_isDigit digit, Text.numeralFrom]
          · cases Text.digitOf 10 first with
            | none => rfl
            | some value =>
                simp only [ih digitsRest (List.cons_ne_nil _ _)]
                rw [Nat.mul_comm]
          · simp
          · simpa using noGap

/-- The digits of a number are read, unless they are too many. -/
theorem digits_read (number : Nat) :
    (if Text.numeralLimit < ((Text.decimal number).filter (· != '_')).length then none
      else digitsNumber 0 (Text.decimal number)) =
      if (Text.decimal number).length ≤ Text.numeralLimit then some number else none := by
  have digits : ∀ character ∈ Text.decimal number, isDigit character = true :=
    fun character listed => Text.isDigit_of_mem_decimal listed
  have whole : (Text.decimal number).filter (· != '_') = Text.decimal number := by
    refine List.filter_eq_self.mpr fun character listed => ?_
    exact bne_iff_ne.mpr (Text.ne_of_isDigit (digits character listed) (by decide))
  rw [whole, digitsNumber_eq digits (Text.decimal_ne_nil number), Text.numeralFrom_decimal]
  by_cases short : (Text.decimal number).length ≤ Text.numeralLimit
  · rw [if_neg (Nat.not_lt.mpr short), if_pos short]
  · rw [if_pos (Nat.lt_of_not_le short), if_neg short]

theorem isBlank_of_mem_decimal {number : Nat} {character : Char}
    (listed : character ∈ Text.decimal number) : Text.isBlank character = false :=
  Text.isBlank_of_isDigit (Text.isDigit_of_mem_decimal listed)

theorem number?_decimal (number : Nat) :
    number? (String.ofList (Text.decimal number)) =
      if (Text.decimal number).length ≤ Text.numeralLimit then some (number : Int) else none := by
  have unsigned (sign : Char) (noDigit : isDigit sign = false) (written : List Char) :
      Text.decimal number ≠ sign :: written := by
    intro same
    have listed : sign ∈ Text.decimal number := same ▸ List.mem_cons_self
    have digit : isDigit sign = true := Text.isDigit_of_mem_decimal listed
    rw [noDigit] at digit
    cases digit
  simp only [number?, String.toList_ofList,
    Text.trimWhile_of_forall fun _ => isBlank_of_mem_decimal]
  split
  next written minus => exact absurd minus (unsigned '-' (by decide) written)
  next written plus => exact absurd plus (unsigned '+' (by decide) written)
  next =>
    rw [digits_read]
    split <;> rfl

theorem number?_minus (number : Nat) :
    number? (String.ofList ('-' :: Text.decimal number)) =
      if (Text.decimal number).length ≤ Text.numeralLimit then some (-(number : Int))
      else none := by
  have visible : ∀ character ∈ '-' :: Text.decimal number, Text.isBlank character = false :=
    List.forall_mem_cons.mpr ⟨by decide, fun _ => isBlank_of_mem_decimal⟩
  simp only [number?, String.toList_ofList, Text.trimWhile_of_forall visible, digits_read]
  split <;> rfl

/-- A whole number is read from its numeral, unless that is too long. -/
theorem number?_integer (value : Int) :
    number? (String.ofList (Text.integer value)) =
      if (Text.decimal value.natAbs).length ≤ Text.numeralLimit then some value else none := by
  cases value with
  | ofNat number => exact number?_decimal number
  | negSucc number => exact number?_minus (number + 1)

/-- A word that names a setting in full, and no value, waits for one. -/
theorem read_awaiting {settings : List Setting} {word : String} {first second : Char}
    {rest : List Char} {setting : Setting} (spelled : word.toList = '-' :: first :: second :: rest)
    (valueless : divideWord word = (word, none))
    (found : ((find? settings word).filter fun _ => word.startsWith "--") = some setting)
    (takes : setting.takesValue = true) : read settings word = .awaiting setting word := by
  simp only [read, spelled, valueless, found, takes]

/-- A project and the two positions of a completion are put one after the other. -/
theorem ofWords_eq_putAll (path line column : String) :
    ofWords .complete ["--project", path, "--line", line, "--ch", column] =
      putAll default [(.project, path), (.line, line), (.column, column)] := by
  have pathWord : read Command.complete.settings "--project" =
      .awaiting .project "--project" :=
    read_awaiting rfl (by decide +kernel) (by decide +kernel) rfl
  have lineWord : read Command.complete.settings "--line" = .awaiting .line "--line" :=
    read_awaiting rfl (by decide +kernel) (by decide +kernel) rfl
  have columnWord : read Command.complete.settings "--ch" = .awaiting .column "--ch" :=
    read_awaiting rfl (by decide +kernel) (by decide +kernel) rfl
  have parsed : parse Command.complete.settings false
      ["--project", path, "--line", line, "--ch", column] =
        .ok ([(.project, path), (.line, line), (.column, column)], []) := by
    simp only [parse, pathWord, lineWord, columnWord, Except.map]
  have settled : settle [(.project, path), (.line, line), (.column, column)] =
      [(.project, path), (.line, line), (.column, column)] := rfl
  simp only [ofWords, parsed, settled]
  cases putAll default [(.project, path), (.line, line), (.column, column)] with
  | error misuse => rfl
  | ok arguments => rfl

section Positions

variable {path : String} {line : Int} (isPath : '\x00' ∉ path.toList)
include isPath

/-- Positions of a completion whose numerals are not too long are taken as they are. -/
theorem ofWords_positions {column : Int}
    (shortLine : (Text.decimal line.natAbs).length ≤ Text.numeralLimit)
    (shortColumn : (Text.decimal column.natAbs).length ≤ Text.numeralLimit) :
    ofWords .complete ["--project", path, "--line", String.ofList (Text.integer line),
        "--ch", String.ofList (Text.integer column)] =
      .ok { default with project := path, line, column } := by
  have lineRead := number?_integer line
  have columnRead := number?_integer column
  rw [if_pos shortLine] at lineRead
  rw [if_pos shortColumn] at columnRead
  simp [ofWords_eq_putAll, putAll, put, checkPath, isPath, checkNumber, lineRead, columnRead,
    Except.map]

/-- A line whose numeral is too long is refused. -/
theorem ofWords_long_line (long : Text.numeralLimit < (Text.decimal line.natAbs).length)
    (column : String) :
    ofWords .complete ["--project", path, "--line", String.ofList (Text.integer line),
        "--ch", column] = .error (.noNumber .line (String.ofList (Text.integer line))) := by
  have unread := number?_integer line
  rw [if_neg (Nat.not_le.mpr long)] at unread
  simp [ofWords_eq_putAll, putAll, put, checkPath, isPath, checkNumber, unread, Except.map]

end Positions

end Arguments

/-- The numeral of a power of ten has one digit more than the power has factors. -/
theorem Text.length_decimal_power (exponent : Nat) :
    (decimal (Nat.pow 10 exponent)).length = exponent + 1 := by
  induction exponent with
  | zero => rfl
  | succ exponent ih =>
      have large : 10 ≤ Nat.pow 10 (exponent + 1) :=
        Nat.le_self_pow (Nat.succ_ne_zero exponent) 10
      have less : Nat.pow 10 (exponent + 1) / 10 = Nat.pow 10 exponent :=
        Nat.mul_div_cancel _ (by decide)
      rw [decimal_of_le large, less, List.length_append, ih, List.length_singleton]

theorem Text.lt_length_decimal_power (exponent : Nat) :
    exponent < (decimal (Nat.pow 10 exponent)).length := by
  rw [length_decimal_power]
  exact Nat.lt_succ_self exponent

/-- The first number whose numeral is too long. It has too many digits to be unfolded by the way. -/
@[irreducible] def Text.overlong : Nat := Nat.pow 10 numeralLimit

theorem Text.numeralLimit_lt_overlong : numeralLimit < (decimal overlong).length := by
  unfold overlong
  exact lt_length_decimal_power numeralLimit

end Multitarget
