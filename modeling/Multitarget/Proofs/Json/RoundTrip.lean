import Multitarget.Proofs.Json.Spelling
import Multitarget.Proofs.Text.Numeral

/-!
# Spellings are read

Every spelling of a document is read as that document. What is read ends where the spelling
ends, so this is shown with more text behind it, which must not go on with a number. So a
document is read from either way of writing it.
-/

namespace Multitarget.Json

variable {opening fuel position : Nat} {rest : List Char} {character : Char}

/-! ## Characters and texts -/

theorem fourHex_hexadecimal {unit : Nat} (small : unit < 0x10000) (more : rest ≠ []) :
    fourHex (Text.hexadecimal 4 unit ++ rest) = some unit := by
  obtain ⟨next, rest, rfl⟩ := List.exists_cons_of_ne_nil more
  exact Text.numeral_hexadecimal small

theorem not_surrogate (character : Char) :
    ¬ (0xD800 ≤ character.toNat ∧ character.toNat ≤ 0xDFFF) := by
  rintro ⟨least, greatest⟩
  rcases character.valid with low | ⟨high, _⟩
  · have below : character.toNat < 0xD800 := low
    omega
  · have above : 0xDFFF < character.toNat := high
    omega

theorem unitCharacter_toNat (character : Char) : unitCharacter character.toNat = character := by
  rw [unitCharacter, if_neg (not_surrogate character), Char.ofNat_toNat]

/-- What is read with a character before it. -/
def Reading.after (character : Char) (reading : Reading (List Char)) : Reading (List Char) :=
  reading.map fun (text, place) => (character :: text, place)

theorem readText_itself (visible : 0x20 ≤ character.toNat) (noQuote : character ≠ '"')
    (noBackslash : character ≠ '\\') :
    readText opening (fuel + 1) ⟨position, character :: rest⟩ =
      .after character (readText opening fuel ⟨position + 1, rest⟩) := by
  rw [readText.eq_2]
  split
  next none => cases none
  next quoted => exact absurd (List.cons.inj quoted).1 noQuote
  next escaped => exact absurd (List.cons.inj escaped).1 noBackslash
  next escaped => exact absurd (List.cons.inj escaped).1 noBackslash
  next escaped => exact absurd (List.cons.inj escaped).1 noBackslash
  next other rest _ _ _ _ same =>
    obtain ⟨rfl, rfl⟩ := List.cons.inj same
    exact if_neg (Nat.not_lt.mpr visible)

theorem readText_letter {letter : Char} (stands : simpleEscape letter = some character) :
    readText opening (fuel + 1) ⟨position, '\\' :: letter :: rest⟩ =
      .after character (readText opening fuel ⟨position + 2, rest⟩) := by
  have other : letter ≠ 'u' := by
    rintro rfl
    cases stands
  rw [readText.eq_2]
  split
  next empty => cases empty
  next quote => cases quote
  next single => cases single
  next unit => exact absurd (List.cons.inj (List.cons.inj unit).2).1 other
  next simple =>
    obtain ⟨rfl, rfl⟩ := List.cons.inj (List.cons.inj simple).2
    rw [stands]
    rfl
  next others same =>
    obtain ⟨rfl, rfl⟩ := List.cons.inj same
    exact (others _ _ rfl rfl).elim

theorem readText_unit (single : character.toNat < 0x10000) (more : rest ≠ []) :
    readText opening (fuel + 1) ⟨position, unitEscape character.toNat ++ rest⟩ =
      .after character (readText opening fuel ⟨position + 6, rest⟩) := by
  have hex := fourHex_hexadecimal single more
  have low : ¬ (0xD800 ≤ character.toNat ∧ character.toNat ≤ 0xDBFF) := by
    have := not_surrogate character
    omega
  rw [readText.eq_2]
  simp only [unitEscape, List.cons_append, hex, if_neg low, unitCharacter_toNat]
  rfl

theorem readText_pair {high low : Nat} (isHigh : 0xD800 ≤ high ∧ high ≤ 0xDBFF)
    (isLow : 0xDC00 ≤ low ∧ low ≤ 0xDFFF) (more : rest ≠ []) :
    readText opening (fuel + 1) ⟨position, unitEscape high ++ (unitEscape low ++ rest)⟩ =
      .after (Char.ofNat (0x10000 + (high - 0xD800) * 0x400 + (low - 0xDC00)))
        (readText opening fuel ⟨position + 12, rest⟩) := by
  have hexHigh : fourHex (Text.hexadecimal 4 high ++ (unitEscape low ++ rest)) = some high :=
    fourHex_hexadecimal (by omega) (by simp [unitEscape])
  have hexLow : fourHex (Text.hexadecimal 4 low ++ rest) = some low :=
    fourHex_hexadecimal (by omega) more
  have long : ¬ (Text.hexadecimal 4 low ++ rest).length < 5 := by
    have := List.length_pos_iff.mpr more
    simp only [List.length_append, Text.hexadecimal, List.length_cons, List.length_nil]
    omega
  have behind : (Text.hexadecimal 4 high ++ (unitEscape low ++ rest)).drop 4 =
      '\\' :: 'u' :: (Text.hexadecimal 4 low ++ rest) := rfl
  rw [readText.eq_2]
  simp only [unitEscape, List.cons_append] at hexHigh behind ⊢
  simp only [hexHigh, behind, if_pos isHigh, if_neg long, hexLow, if_pos isLow]
  rfl

/-- A character is read from each of its spellings. -/
theorem readText_character {spelling : List Char} (spells : SpellsCharacter character spelling)
    (more : rest ≠ []) :
    ∃ behind, readText opening (fuel + 1) ⟨position, spelling ++ rest⟩ =
      .after character (readText opening fuel ⟨behind, rest⟩) := by
  cases spells with
  | itself visible noQuote noBackslash => exact ⟨_, readText_itself visible noQuote noBackslash⟩
  | letter stands => exact ⟨_, readText_letter stands⟩
  | unit single => exact ⟨_, readText_unit single more⟩
  | pair isHigh isLow both =>
      refine ⟨position + 12, ?_⟩
      rw [List.append_assoc, readText_pair isHigh isLow more, both, Char.ofNat_toNat]

theorem length_le_of_spellsText {text spelling : List Char} (spells : SpellsText text spelling) :
    text.length ≤ spelling.length := by
  induction spells with
  | nil => exact Nat.le_refl _
  | @cons character text spelling rest first _ ih =>
      have held : 0 < spelling.length := by cases first <;> exact Nat.zero_lt_succ _
      simp only [List.length_cons, List.length_append]
      omega

/-- A text is read from each of its spellings, up to the quote behind it. -/
theorem readText_spells {text spelling : List Char} (spells : SpellsText text spelling)
    (enough : text.length < fuel) :
    ∃ behind, readText opening fuel ⟨position, spelling ++ '"' :: rest⟩ =
      .ok (text, ⟨behind, rest⟩) := by
  induction spells generalizing fuel position with
  | nil =>
      obtain ⟨fuel, rfl⟩ := Nat.exists_eq_add_of_lt enough
      exact ⟨_, rfl⟩
  | @cons character text spelling others first _ ih =>
      obtain ⟨fuel, rfl⟩ : ∃ less, fuel = less + 1 := ⟨fuel - 1, by omega⟩
      have more : others ++ '"' :: rest ≠ [] := by simp
      obtain ⟨between, begun⟩ := readText_character first more
      obtain ⟨behind, read⟩ := ih (by simpa using enough)
      exact ⟨behind, by rw [List.append_assoc, begun, read]; rfl⟩

/-! ## Whole numbers -/

/-- What may stand behind a number: nothing that would continue it. -/
def Ends (rest : List Char) : Prop :=
  ∀ character, rest.head? = some character →
    Text.isDigit character = false ∧ character ≠ '.' ∧ character ≠ 'e' ∧ character ≠ 'E'

theorem digitCount_decimal (number : Nat) (ends : Ends rest) :
    digitCount (Text.decimal number ++ rest) = (Text.decimal number).length := by
  have none : rest.takeWhile Text.isDigit = [] := by
    cases rest with
    | nil => rfl
    | cons character rest => simp [(ends character rfl).1]
  rw [digitCount, List.takeWhile_append_of_pos fun _ => Text.isDigit_of_mem_decimal, none,
    List.append_nil]

theorem fractionLength_of_ends (ends : Ends rest) : fractionLength rest = 0 := by
  cases rest with
  | nil => rfl
  | cons character rest =>
      rw [fractionLength.eq_2]
      rintro _ ⟨⟩
      exact (ends _ rfl).2.1 rfl

theorem exponentLength_of_ends (ends : Ends rest) : exponentLength rest = 0 := by
  cases rest with
  | nil => rfl
  | cons character rest =>
      obtain ⟨_, _, noSmall, noLarge⟩ := ends character rfl
      simp [exponentLength, noSmall, noLarge]

theorem wholeLength_decimal (number : Nat) (ends : Ends rest) :
    wholeLength (Text.decimal number ++ rest) = (Text.decimal number).length := by
  unfold wholeLength
  split
  next tail zero =>
      obtain ⟨first, others, digits⟩ := List.exists_cons_of_ne_nil (Text.decimal_ne_nil number)
      rw [digits, List.cons_append] at zero
      have none : number = 0 := Text.head?_decimal_zero (by
        rw [digits, List.head?_cons, (List.cons.inj zero).1])
      subst none
      rfl
  next => exact digitCount_decimal number ends

/-- The numeral of a number is read, with or without a minus sign before it. -/
theorem readNumber_decimal {negative : Bool} {number : Nat}
    (short : (Text.decimal number).length ≤ Text.numeralLimit) (ends : Ends rest) :
    readNumber ⟨position, (if negative then ['-'] else []) ++ (Text.decimal number ++ rest)⟩ =
      .ok (.int (if negative then -(number : Int) else number),
        ⟨position + ((if negative then 1 else 0) + (Text.decimal number).length), rest⟩) := by
  have held : (Text.decimal number).length ≠ 0 := by simp [Text.decimal_ne_nil]
  have sign : (((if negative then ['-'] else []) ++ (Text.decimal number ++ rest)).head? ==
      some '-') = negative := by
    cases negative with
    | true => rfl
    | false =>
        obtain ⟨first, others, digits, digit⟩ := Text.exists_decimal_cons number
        simp [digits, Text.ne_of_isDigit digit (rfl : Text.isDigit '-' = false)]
  have size : (if negative then
      ((if negative then ['-'] else []) ++ (Text.decimal number ++ rest)).drop 1
      else (if negative then ['-'] else []) ++ (Text.decimal number ++ rest)) =
        Text.decimal number ++ rest := by
    cases negative <;> rfl
  rw [readNumber]
  simp only [sign, size, wholeLength_decimal number ends, if_neg held, List.drop_left,
    fractionLength_of_ends ends, List.take_left, List.take_zero, List.length_nil, Nat.add_zero,
    exponentLength_of_ends ends, List.isEmpty_nil, Bool.and_self, if_true,
    if_neg (Nat.not_lt.mpr short), Text.numeral_decimal, Option.getD_some, Place.advance]
  congr 3
  cases negative <;> simp [Nat.add_comm 1]

theorem words_hold_no_digit : ∀ entry ∈ wordValues,
    2 ≤ entry.1.toList.length ∧ ∀ character ∈ entry.1.toList, Text.isDigit character = false := by
  have checked : (wordValues.all fun entry => decide (2 ≤ entry.1.toList.length) &&
      entry.1.toList.all fun character => !Text.isDigit character) = true := by
    decide
  simpa only [List.all_eq_true, Bool.and_eq_true, decide_eq_true_eq, Bool.not_eq_true']
    using checked

/-- No word stands where a numeral does: a digit is its first or second character. -/
theorem wordAt_integer (value : Int) : wordAt (Text.integer value ++ rest) = none := by
  refine List.find?_eq_none.mpr fun entry listed begun => ?_
  obtain ⟨long, noDigit⟩ := words_hold_no_digit entry listed
  obtain ⟨behind, same⟩ := List.isPrefixOf_iff_prefix.mp begun
  match word : entry.1.toList with
  | [] | [_] => simp [word] at long
  | first :: second :: others =>
      simp only [word, List.forall_mem_cons] at noDigit
      rw [word] at same
      cases value with
      | ofNat number =>
          obtain ⟨digit, digits, written, isDigit⟩ := Text.exists_decimal_cons number
          simp only [Text.integer, written, List.cons_append, List.cons.injEq] at same
          rw [same.1, isDigit] at noDigit
          cases noDigit.1
      | negSucc number =>
          obtain ⟨digit, digits, written, isDigit⟩ := Text.exists_decimal_cons (number + 1)
          simp only [Text.integer, written, List.cons_append, List.cons.injEq] at same
          rw [same.2.1, isDigit] at noDigit
          cases noDigit.2.1

theorem readNumber_integer {value : Int}
    (short : (Text.decimal value.natAbs).length ≤ Text.numeralLimit) (ends : Ends rest) :
    ∃ behind, readNumber ⟨position, Text.integer value ++ rest⟩ =
      .ok (.int value, ⟨behind, rest⟩) := by
  cases value with
  | ofNat number => exact ⟨_, @readNumber_decimal position rest false number short ends⟩
  | negSucc number => exact ⟨_, @readNumber_decimal position rest true (number + 1) short ends⟩

/-- A numeral starts with a digit or a minus sign, so with none of the other characters that
start a value or end one. -/
theorem exists_integer_cons (value : Int) :
    ∃ first others, Text.integer value = first :: others ∧
      ∀ other, Text.isDigit other = false → other ≠ '-' → first ≠ other := by
  cases value with
  | ofNat number =>
      obtain ⟨first, others, written, digit⟩ := Text.exists_decimal_cons number
      exact ⟨first, others, written, fun _ noDigit _ => Text.ne_of_isDigit digit noDigit⟩
  | negSucc number => exact ⟨'-', _, rfl, fun _ _ noSign => noSign.symm⟩

/-- A whole number is read where it is written. -/
theorem readValue_integer {value : Int}
    (short : (Text.decimal value.natAbs).length ≤ Text.numeralLimit) (ends : Ends rest) :
    ∃ behind, readValue (fuel + 1) ⟨position, Text.integer value ++ rest⟩ =
      .ok (.int value, ⟨behind, rest⟩) := by
  obtain ⟨behind, read⟩ := @readNumber_integer position rest value short ends
  obtain ⟨first, others, written, starts⟩ := exists_integer_cons value
  have noWord := @wordAt_integer rest value
  refine ⟨behind, ?_⟩
  rw [readValue.eq_2]
  simp only [written, List.cons_append] at noWord read ⊢
  split
  next quote => exact absurd (List.cons.inj quote).1 (starts _ rfl (by decide))
  next brace => exact absurd (List.cons.inj brace).1 (starts _ rfl (by decide))
  next bracket => exact absurd (List.cons.inj bracket).1 (starts _ rfl (by decide))
  next => rw [noWord, read]

/-! ## Space between tokens -/

/-- What may stand behind space that is skipped: no more of it. -/
def Stops (rest : List Char) : Prop :=
  ∀ character, rest.head? = some character → isSpace character = false

theorem stops_cons (visible : isSpace character = false) : Stops (character :: rest) := by
  rintro _ ⟨⟩
  exact visible

theorem ends_cons (other : Text.isDigit character = false ∧ character ≠ '.' ∧ character ≠ 'e' ∧
    character ≠ 'E') : Ends (character :: rest) := by
  rintro _ ⟨⟩
  exact other

theorem ends_gap {gap : List Char} (space : IsGap gap) (ends : Ends rest) :
    Ends (gap ++ rest) := by
  cases gap with
  | nil => exact ends
  | cons character gap =>
      rintro _ ⟨⟩
      rcases space character List.mem_cons_self with rfl | rfl <;> decide

theorem skip_gap {gap : List Char} (space : IsGap gap) (stops : Stops rest) :
    (Place.mk position (gap ++ rest)).skip = ⟨position + gap.length, rest⟩ := by
  have all : ∀ character ∈ gap, isSpace character = true := by
    intro character listed
    rcases space character listed with rfl | rfl <;> rfl
  have none : rest.takeWhile isSpace = [] := by
    cases rest with
    | nil => rfl
    | cons character rest => simp [stops character rfl]
  simp [Place.skip, Place.advance, List.takeWhile_append_of_pos all, none]

theorem skip_visible (visible : isSpace character = false) :
    (Place.mk position (character :: rest)).skip = ⟨position, character :: rest⟩ :=
  skip_gap isGap_nil (stops_cons visible)

theorem skip_behind {gap : List Char} (space : IsGap gap) (stops : Stops rest) :
    (Place.advance ⟨position, character :: (gap ++ rest)⟩ 1).skip =
      ⟨position + 1 + gap.length, rest⟩ :=
  skip_gap space stops

/-- How a value starts: with no space, no closing bracket and no byte order mark. -/
def Begins (text : List Char) : Prop :=
  ∃ first others, text = first :: others ∧ isSpace first = false ∧ first ≠ ']' ∧
    first ≠ '\x7d' ∧ first ≠ '\uFEFF'

theorem begins_spells {document : Document} {text : List Char} (spells : Spells document text) :
    Begins text := by
  cases spells with
  | null => exact ⟨_, _, rfl, by decide⟩
  | bool value => cases value <;> exact ⟨_, _, rfl, by decide⟩
  | @int value _ =>
      obtain ⟨first, others, written, starts⟩ := exists_integer_cons value
      have noSpace : isSpace first = false := by
        simp [isSpace, starts ' ' rfl, starts '\t' rfl, starts '\n' rfl, starts '\r' rfl]
      exact ⟨first, others, written, noSpace, starts _ rfl (by decide), starts _ rfl (by decide),
        starts _ rfl (by decide)⟩
  | text _ => exact ⟨_, _, rfl, by decide⟩
  | emptyArray => exact ⟨_, _, rfl, by decide⟩
  | array _ _ => exact ⟨_, _, rfl, by decide⟩
  | emptyObject => exact ⟨_, _, rfl, by decide⟩
  | object _ _ => exact ⟨_, _, rfl, by decide⟩

theorem begins_items {items : List Document} {text : List Char} (spells : SpellsItems items text) :
    Begins (text ++ rest) := by
  cases spells with
  | last first _ =>
      obtain ⟨character, others, rfl, begins⟩ := begins_spells first
      exact ⟨character, _, rfl, begins⟩
  | more first _ _ =>
      obtain ⟨character, others, rfl, begins⟩ := begins_spells first
      exact ⟨character, _, rfl, begins⟩

theorem begins_members {members : List (String × Document)} {text : List Char}
    (spells : SpellsMembers members text) : Begins (text ++ rest) := by
  cases spells with
  | last _ _ _ => exact ⟨'"', _, rfl, by decide⟩
  | more _ _ _ _ _ => exact ⟨'"', _, rfl, by decide⟩

theorem Begins.append {text : List Char} (begins : Begins text) : Begins (text ++ rest) := by
  obtain ⟨first, others, rfl, starts⟩ := begins
  exact ⟨first, _, rfl, starts⟩

theorem Begins.stops {text : List Char} (begins : Begins text) : Stops text := by
  obtain ⟨first, others, rfl, noSpace, _⟩ := begins
  exact stops_cons noSpace

/-! ## Values -/

theorem readValue_text (text : List Char) :
    readValue (fuel + 1) ⟨position, '"' :: text⟩ =
      (readText position (text.length + 2) ⟨position + 1, text⟩).map
        fun (text, place) => (.text (String.ofList text), place) := by
  rw [readValue.eq_2]
  rfl

theorem readValue_array {gap text : List Char} (space : IsGap gap) (begins : Begins text) :
    readValue (fuel + 1) ⟨position, '[' :: (gap ++ text)⟩ =
      (readItems fuel ⟨position + 1 + gap.length, text⟩).map
        fun (items, place) => (.array items, place) := by
  have inner := @skip_behind position text '[' gap space begins.stops
  obtain ⟨first, others, rfl, _, noBracket, _⟩ := begins
  rw [readValue.eq_2]
  simp only [inner]
  split
  next closed => exact absurd (List.cons.inj closed).1 noBracket
  next => rfl

theorem readValue_object {gap text : List Char} (space : IsGap gap) (begins : Begins text) :
    readValue (fuel + 1) ⟨position, '\x7b' :: (gap ++ text)⟩ =
      (readMembers fuel ⟨position + 1 + gap.length, text⟩ []).map
        fun (members, place) => (.object members, place) := by
  have inner := @skip_behind position text '\x7b' gap space begins.stops
  obtain ⟨first, others, rfl, _, _, noBrace, _⟩ := begins
  rw [readValue.eq_2]
  simp only [inner]
  split
  next closed => exact absurd (List.cons.inj closed).1 noBrace
  next => rfl

theorem put_of_not_mem {name : String} {item : Document} {members : List (String × Document)}
    (fresh : name ∉ members.map Prod.fst) :
    Document.put name item members = members ++ [(name, item)] := by
  induction members with
  | nil => rfl
  | cons member members ih =>
      simp only [List.map_cons, List.mem_cons, not_or] at fresh
      simp [Document.put, Ne.symm fresh.1, ih fresh.2]

/-- What is read behind the value of a member: the end of the object, or further members. -/
def readBehind (fuel : Nat) (name : String) (before : List (String × Document)) :
    Document × Place → Reading (List (String × Document))
  | (item, place) =>
    match place.skip.rest with
    | '\x7d' :: _ => .ok (Document.put name item before, place.skip.advance 1)
    | ',' :: _ => readMembers fuel (place.skip.advance 1).skip (Document.put name item before)
    | _ => .error (.malformed .comma place.skip.position)

/-- What is read from the quote of a member on. -/
theorem readMembers_name {name : String} {spelling text : List Char}
    {before : List (String × Document)} (named : SpellsText name.toList spelling)
    (begins : Begins text) : ∃ between,
    readMembers (fuel + 1) ⟨position, '"' :: (spelling ++ '"' :: ':' :: ' ' :: text)⟩ before =
      (readValue fuel ⟨between, text⟩).bind (readBehind fuel name before) := by
  have length := length_le_of_spellsText named
  obtain ⟨behind, read⟩ := @readText_spells position
    (('"' :: (spelling ++ '"' :: ':' :: ' ' :: text)).length + 1) (position + 1)
    (':' :: ' ' :: text) _ _ named (by
      simp only [List.length_cons, List.length_append]
      omega)
  have colon := @skip_visible behind (' ' :: text) ':' rfl
  have value : (Place.advance ⟨behind, ':' :: ' ' :: text⟩ 1).skip = ⟨behind + 1 + 1, text⟩ :=
    skip_behind isGap_space begins.stops
  have opened : Place.advance ⟨position, '"' :: (spelling ++ '"' :: ':' :: ' ' :: text)⟩ 1 =
      ⟨position + 1, spelling ++ '"' :: ':' :: ' ' :: text⟩ := rfl
  refine ⟨behind + 1 + 1, ?_⟩
  rw [readMembers.eq_2]
  simp only [opened, read, bind, Except.bind, colon, value, String.ofList_toList]
  rfl

/-! ## Documents -/

mutual

/-- A document is read from each of its spellings. -/
theorem readValue_spells {document : Document} {text rest : List Char} {fuel : Nat}
    (spells : Spells document text) (enough : 2 * text.length < fuel) (ends : Ends rest)
    (position : Nat) :
    ∃ behind, readValue fuel ⟨position, text ++ rest⟩ = .ok (document, ⟨behind, rest⟩) := by
  obtain ⟨fuel, rfl⟩ : ∃ less, fuel = less + 1 := ⟨fuel - 1, by omega⟩
  cases spells with
  | null => exact ⟨_, rfl⟩
  | bool value => cases value <;> exact ⟨_, rfl⟩
  | int short => exact readValue_integer short ends
  | @text value spelling named =>
      have length := length_le_of_spellsText named
      have enough : value.toList.length < (spelling ++ '"' :: rest).length + 2 := by
        rw [List.length_append]
        omega
      obtain ⟨behind, read⟩ := readText_spells named enough
      refine ⟨behind, ?_⟩
      simp only [List.cons_append, List.append_assoc, List.nil_append]
      rw [readValue_text, read]
      simp [Except.map]
  | emptyArray => exact ⟨_, rfl⟩
  | @array items gap spelling space spelled =>
      have shorter : 2 * spelling.length ≤ fuel := by
        simp only [List.length_cons, List.length_append] at enough
        omega
      obtain ⟨behind, read⟩ := readItems_spells spelled shorter (position + 1 + gap.length) rest
      refine ⟨behind, ?_⟩
      rw [List.cons_append, List.append_assoc, readValue_array space (begins_items spelled), read]
      rfl
  | emptyObject => exact ⟨_, rfl⟩
  | @object members gap spelling space spelled =>
      have shorter : 2 * spelling.length ≤ fuel := by
        simp only [List.length_cons, List.length_append] at enough
        omega
      have none (name : String) (_ : name ∈ members.map Prod.fst) :
          name ∉ ([] : List (String × Document)).map Prod.fst :=
        List.not_mem_nil
      obtain ⟨behind, read⟩ :=
        readMembers_spells spelled shorter none (position + 1 + gap.length) rest
      refine ⟨behind, ?_⟩
      rw [List.cons_append, List.append_assoc,
        readValue_object space (begins_members spelled), read]
      rfl
termination_by text.length

theorem readItems_spells {items : List Document} {text : List Char} {fuel : Nat}
    (spells : SpellsItems items text) (enough : 2 * text.length ≤ fuel) (position : Nat)
    (rest : List Char) :
    ∃ behind, readItems fuel ⟨position, text ++ rest⟩ = .ok (items, ⟨behind, rest⟩) := by
  cases spells with
  | @last item spelling gap first space =>
      simp only [List.length_append, List.length_singleton] at enough
      obtain ⟨fuel, rfl⟩ : ∃ less, fuel = less + 1 := ⟨fuel - 1, by omega⟩
      have closes : Ends (gap ++ ']' :: rest) := ends_gap space (ends_cons (by decide))
      obtain ⟨between, read⟩ := readValue_spells first (by omega : _ < fuel) closes position
      have closing := @skip_gap between (']' :: rest) gap space (stops_cons (by decide))
      refine ⟨between + gap.length + 1, ?_⟩
      rw [readItems.eq_2]
      simp only [List.append_assoc, List.singleton_append, read, bind, Except.bind, closing]
      rfl
  | @more item items spelling gap others first space spelled =>
      simp only [List.length_append, List.length_cons] at enough
      obtain ⟨fuel, rfl⟩ : ∃ less, fuel = less + 1 := ⟨fuel - 1, by omega⟩
      have goesOn : Ends (',' :: (gap ++ (others ++ rest))) := ends_cons (by decide)
      obtain ⟨between, read⟩ := readValue_spells first (by omega : _ < fuel) goesOn position
      have comma := @skip_visible between (gap ++ (others ++ rest)) ',' rfl
      have next := @skip_behind between (others ++ rest) ',' gap space (begins_items spelled).stops
      obtain ⟨behind, readOthers⟩ :=
        readItems_spells spelled (by omega : _ ≤ fuel) (between + 1 + gap.length) rest
      refine ⟨behind, ?_⟩
      rw [readItems.eq_2]
      simp only [List.append_assoc, List.cons_append, read, bind, Except.bind, comma, next,
        readOthers]
termination_by text.length

theorem readMembers_spells {members before : List (String × Document)} {text : List Char}
    {fuel : Nat} (spells : SpellsMembers members text) (enough : 2 * text.length ≤ fuel)
    (distinct : ∀ name ∈ members.map Prod.fst, name ∉ before.map Prod.fst) (position : Nat)
    (rest : List Char) :
    ∃ behind, readMembers fuel ⟨position, text ++ rest⟩ before =
      .ok (before ++ members, ⟨behind, rest⟩) := by
  cases spells with
  | @last name item spellingName spelling gap named first space =>
      simp only [List.length_append, List.length_cons, List.length_nil] at enough
      obtain ⟨fuel, rfl⟩ : ∃ less, fuel = less + 1 := ⟨fuel - 1, by omega⟩
      have closes : Ends (gap ++ '\x7d' :: rest) := ends_gap space (ends_cons (by decide))
      obtain ⟨value, start⟩ := @readMembers_name fuel position name spellingName
        (spelling ++ (gap ++ '\x7d' :: rest)) before named (begins_spells first).append
      obtain ⟨between, read⟩ := readValue_spells first (by omega : _ < fuel) closes value
      have closing := @skip_gap between ('\x7d' :: rest) gap space (stops_cons (by decide))
      have fresh : name ∉ before.map Prod.fst := distinct name List.mem_cons_self
      refine ⟨between + gap.length + 1, ?_⟩
      simp only [List.cons_append, List.append_assoc, List.nil_append, start, read, Except.bind,
        readBehind, closing, put_of_not_mem fresh]
      rfl
  | @more name item members spellingName spelling gap others named first space fresh spelled =>
      simp only [List.length_append, List.length_cons] at enough
      obtain ⟨fuel, rfl⟩ : ∃ less, fuel = less + 1 := ⟨fuel - 1, by omega⟩
      have goesOn : Ends (',' :: (gap ++ (others ++ rest))) := ends_cons (by decide)
      obtain ⟨value, start⟩ := @readMembers_name fuel position name spellingName
        (spelling ++ ',' :: (gap ++ (others ++ rest))) before named (begins_spells first).append
      obtain ⟨between, read⟩ := readValue_spells first (by omega : _ < fuel) goesOn value
      have comma := @skip_visible between (gap ++ (others ++ rest)) ',' rfl
      have next :=
        @skip_behind between (others ++ rest) ',' gap space (begins_members spelled).stops
      have newName : name ∉ before.map Prod.fst := distinct name List.mem_cons_self
      have stillDistinct : ∀ other ∈ members.map Prod.fst,
          other ∉ (before ++ [(name, item)]).map Prod.fst := by
        intro other listed
        have differs : other ≠ name := by
          rintro rfl
          exact fresh listed
        simpa [differs] using distinct other (List.mem_cons_of_mem _ listed)
      obtain ⟨behind, readOthers⟩ := readMembers_spells spelled (by omega : _ ≤ fuel) stillDistinct
        (between + 1 + gap.length) rest
      refine ⟨behind, ?_⟩
      simp only [List.cons_append, List.append_assoc, start, read, Except.bind, readBehind, comma,
        next, put_of_not_mem newName, readOthers, List.nil_append]
termination_by text.length

end

/-- Each spelling of a document reads as it, also with space behind it. -/
theorem read_spells {document : Document} {text gap : List Char} (spells : Spells document text)
    (space : IsGap gap) : read (text ++ gap) = .ok document := by
  have begins : Begins (text ++ gap) := (begins_spells spells).append
  have noMark : (text ++ gap).head? ≠ some '\uFEFF' := by
    obtain ⟨first, others, written, _, _, _, noMark⟩ := begins
    simpa [written] using noMark
  have start : (Place.mk 0 (text ++ gap)).skip = ⟨0, text ++ gap⟩ :=
    skip_gap isGap_nil begins.stops
  have nothing : Ends ([] : List Char) := by
    rintro _ ⟨⟩
  have ends : Ends gap := by simpa using ends_gap space nothing
  have enough : 2 * text.length < 2 * (text ++ gap).length + 2 := by
    rw [List.length_append]
    omega
  obtain ⟨behind, value⟩ := readValue_spells spells enough ends 0
  have rest : (Place.mk behind gap).skip = ⟨behind + gap.length, []⟩ := by
    have none : Stops ([] : List Char) := by
      rintro _ ⟨⟩
    simpa using @skip_gap behind [] gap space none
  simp only [read, if_neg noMark, start, value, bind, Except.bind, rest, List.isEmpty_nil, if_true]

/-- A plain document is read from the line that is written for it. -/
theorem read_printLine {document : Document} (ascii : Bool) (plain : IsPlain document)
    (writable : isWritable document = true) :
    read (printLine ascii document) = .ok document := by
  simpa using read_spells (printLine_spells ascii document plain writable) isGap_nil

end Multitarget.Json
