import Mathlib.Computability.Language
import Multitarget.Domain.Reference
import Multitarget.Proofs.Text.Lines

/-!
# The form of references

The pattern of references is a regular expression, and a text is a reference exactly if it is in
the language of that expression: two names with points, and the only colon between them. The name
of the module and the names of the attributes are read off a text with a colon in just one way,
also where points stand beside each other or at an end, which makes some of the names empty.
-/

namespace Multitarget

open scoped Computability

/-! ## Patterns -/

/-- An item of a class of characters. -/
inductive Pattern.Item where
  /-- All characters from one to another. -/
  | range (first last : Char)
  /-- A character that means nothing else in a class. -/
  | single (character : Char)
  /-- All word characters. -/
  | word

/-- A piece of a pattern. -/
inductive Pattern.Piece where
  /-- A character that stands for itself. -/
  | literal (character : Char)
  /-- One character of a class. -/
  | oneOf (items : List Pattern.Item)
  /-- Any number of characters of a class. -/
  | manyOf (items : List Pattern.Item)

/-- Pieces in a row, for the whole of a text. -/
abbrev Pattern := List Pattern.Piece

namespace Pattern

/-- How an item is written. -/
def Item.written : Item → String
  | .range first last => String.ofList [first, '-', last]
  | .single character => String.ofList [character]
  | .word => "\\w"

/-- How a piece is written. -/
def Piece.written : Piece → String
  | .literal character => String.ofList [character]
  | .oneOf items => "[" ++ String.join (items.map Item.written) ++ "]"
  | .manyOf items => "[" ++ String.join (items.map Item.written) ++ "]*"

/-- How a pattern is written, from the mark for the start of a text to that for its end. -/
def written (pattern : Pattern) : String :=
  "^" ++ String.join (pattern.map Piece.written) ++ "$"

/-- Whether a character is one of an item's. -/
def Item.holds : Item → Char → Bool
  | .range first last, character => first ≤ character && character ≤ last
  | .single other, character => character == other
  | .word, character => Text.isWord character

/-- The texts of one character of a class. -/
def ofClass (items : List Item) : Language Char :=
  {text | ∃ character, text = [character] ∧ items.any (Item.holds · character) = true}

/-- What a piece stands for. -/
def Piece.language : Piece → Language Char
  | .literal character => {[character]}
  | .oneOf items => ofClass items
  | .manyOf items => (ofClass items)∗

/-- The texts that a pattern matches. -/
def language (pattern : Pattern) : Language Char :=
  (pattern.map Piece.language).prod

variable {items : List Item} {text : List Char}

theorem language_append (first second : Pattern) :
    language (first ++ second) = language first * language second := by
  simp [language]

theorem mem_kstar_ofClass_iff :
    text ∈ (ofClass items)∗ ↔
      ∀ character ∈ text, items.any (Item.holds · character) = true := by
  rw [Language.mem_kstar]
  constructor
  · rintro ⟨pieces, rfl, all⟩ character held
    obtain ⟨piece, listed, held⟩ := List.mem_flatten.mp held
    obtain ⟨only, rfl, holds⟩ := all piece listed
    rw [List.mem_singleton.mp held]
    exact holds
  · intro all
    refine ⟨text.map fun character => [character], ?_, ?_⟩
    · rw [← List.flatMap_def, List.flatMap_singleton']
    · intro piece listed
      obtain ⟨character, held, rfl⟩ := List.mem_map.mp listed
      exact ⟨character, rfl, all character held⟩

end Pattern

namespace Reference

/-! ## The pattern of references -/

/-- What a name with points starts with. -/
def initialItems : List Pattern.Item := [.range 'A' 'Z', .range 'a' 'z', .single '_']

/-- What a name with points goes on with. -/
def innerItems : List Pattern.Item := [.word, .single '.']

/-- The pattern of a name with points. -/
def nameForm : Pattern := [.oneOf initialItems, .manyOf innerItems]

/-- The pattern of a reference. -/
def form : Pattern := nameForm ++ .literal ':' :: nameForm

/-- The pattern is the one that a refusal shows. -/
theorem written_form : form.written = pattern := by
  decide

variable {text : List Char}

theorem any_initialItems (character : Char) :
    initialItems.any (Pattern.Item.holds · character) = isInitial character := by
  simp [initialItems, Pattern.Item.holds, isInitial, Bool.or_assoc]

theorem any_innerItems (character : Char) :
    innerItems.any (Pattern.Item.holds · character) =
      (character == '.' || Text.isWord character) := by
  simp [innerItems, Pattern.Item.holds, Bool.or_comm]

theorem mem_nameForm_iff : text ∈ nameForm.language ↔ isDottedName text = true := by
  have inTurn : nameForm.language =
      Pattern.ofClass initialItems * (Pattern.ofClass innerItems)∗ := by
    simp [Pattern.language, nameForm, Pattern.Piece.language]
  rw [inTurn, Language.mem_mul]
  constructor
  · rintro ⟨_, ⟨first, rfl, initial⟩, rest, inner, rfl⟩
    rw [any_initialItems] at initial
    simp only [Pattern.mem_kstar_ofClass_iff, any_innerItems] at inner
    rw [List.singleton_append, isDottedName, initial, Bool.true_and, List.all_eq_true]
    exact inner
  · intro named
    cases text with
    | nil => cases named
    | cons first rest =>
        rw [isDottedName, Bool.and_eq_true, List.all_eq_true] at named
        refine ⟨[first], ⟨first, rfl, ?_⟩, rest, ?_, rfl⟩
        · rw [any_initialItems]
          exact named.1
        · simp only [Pattern.mem_kstar_ofClass_iff, any_innerItems]
          exact named.2

theorem mem_form_iff :
    text ∈ form.language ↔ ∃ moduleName member, isDottedName moduleName = true ∧
      isDottedName member = true ∧ text = moduleName ++ ':' :: member := by
  have inTurn : form.language = nameForm.language * ({[':']} * nameForm.language) := by
    rw [form, Pattern.language_append]
    simp [Pattern.language, Pattern.Piece.language]
  rw [inTurn, Language.mem_mul]
  constructor
  · rintro ⟨moduleName, first, _, behind, rfl⟩
    obtain ⟨_, rfl, member, second, rfl⟩ := Language.mem_mul.mp behind
    exact ⟨moduleName, member, mem_nameForm_iff.mp first, mem_nameForm_iff.mp second, rfl⟩
  · rintro ⟨moduleName, member, first, second, rfl⟩
    refine ⟨moduleName, mem_nameForm_iff.mpr first, ':' :: member, ?_, rfl⟩
    exact Language.mem_mul.mpr ⟨[':'], rfl, member, mem_nameForm_iff.mpr second, rfl⟩

/-- The colon starts no name, and it is no word character. -/
theorem not_mem_of_isDottedName (named : isDottedName text = true) : ':' ∉ text := by
  cases text with
  | nil => exact List.not_mem_nil
  | cons first rest =>
      rw [isDottedName, Bool.and_eq_true, List.all_eq_true] at named
      intro held
      rcases List.mem_cons.mp held with rfl | behind
      · exact absurd named.1 (by decide)
      · exact absurd (named.2 ':' behind) (by decide +kernel)

theorem isReference_iff {text : String} :
    isReference text = true ↔ ∃ moduleName member, isDottedName moduleName = true ∧
      isDottedName member = true ∧ text.toList = moduleName ++ ':' :: member := by
  constructor
  · intro named
    rw [isReference] at named
    split at named
    next moduleName member parts =>
      rw [Bool.and_eq_true] at named
      have joined := Text.join_splitAt ':' text.toList
      rw [parts, Text.join_cons (by simp)] at joined
      exact ⟨moduleName, member, named.1, named.2, joined.symm⟩
    next => cases named
  · rintro ⟨moduleName, member, first, second, joined⟩
    rw [isReference, joined, Text.splitAt_append (not_mem_of_isDottedName first),
      Text.splitAt_of_not_mem (not_mem_of_isDottedName second)]
    exact Bool.and_eq_true _ _ ▸ ⟨first, second⟩

/-- A text is a reference exactly if the pattern of references matches it. -/
theorem isReference_iff_mem_language {text : String} :
    isReference text = true ↔ text.toList ∈ form.language :=
  isReference_iff.trans mem_form_iff.symm

/-- Points may stand beside each other, and at the end of either name. -/
example : isReference "fakes..:Holder..Jvm." = true := by decide +kernel

/-! ## The parts of a reference -/

/-- The name of a module and the names of attributes that a reference is put together from. -/
structure HasParts (reference moduleName : String) (names : List String) : Prop where
  written : reference = moduleName ++ ":" ++ ".".intercalate names
  colonless : ':' ∉ moduleName.toList
  present : names ≠ []
  pointless : ∀ name ∈ names, '.' ∉ name.toList

theorem toList_intercalate (names : List String) :
    (".".intercalate names).toList = Text.join ['.'] (names.map String.toList) := by
  rw [String.toList_intercalate, Text.join_eq_intercalate]
  rfl

/-- A name is empty where points stand beside each other or at an end. -/
theorem empty_mem_attributeNames_iff {member : String} :
    "" ∈ attributeNames member ↔ ['.', '.'] <:+: '.' :: (member.toList ++ ['.']) := by
  rw [attributeNames, List.mem_map, ← Text.nil_mem_splitAt_iff]
  constructor
  · rintro ⟨piece, listed, empty⟩
    obtain rfl : piece = [] := by simpa using empty
    exact listed
  · intro listed
    exact ⟨[], listed, rfl⟩

/-- Whether a text starts with the name of a module, and that is not relative: something starts it,
and neither a colon nor a point. -/
def NamesModule (text : String) : Prop :=
  ∃ first rest, text.toList = first :: rest ∧ first ≠ ':' ∧ first ≠ '.'

theorem namesModule_iff {text : String} :
    NamesModule text ↔ (split text).1 ≠ "" ∧ (split text).1.toList.head? ≠ some '.' := by
  have module : (split text).1 = String.ofList (text.toList.takeWhile (· != ':')) := rfl
  rw [module, NamesModule, String.toList_ofList]
  cases chars : text.toList with
  | nil => simp
  | cons first rest =>
      by_cases colon : first = ':'
      · simp [colon]
      · simp [colon]

theorem namesModule_of_isReference {text : String} (named : isReference text = true) :
    NamesModule text := by
  obtain ⟨moduleName, member, dotted, _, whole⟩ := isReference_iff.mp named
  cases moduleName with
  | nil => cases dotted
  | cons first rest =>
      rw [isDottedName, Bool.and_eq_true] at dotted
      refine ⟨first, rest ++ ':' :: member, whole, ?_, ?_⟩
      · rintro rfl
        exact absurd dotted.1 (by decide)
      · rintro rfl
        exact absurd dotted.1 (by decide)

end Reference

end Multitarget
