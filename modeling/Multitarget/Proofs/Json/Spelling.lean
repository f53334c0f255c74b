import Multitarget.Json.Printer
import Multitarget.Json.Reader
import Multitarget.Proofs.Text.Numeral

/-!
# The spelling of documents

A grammar of JSON as far as documents are written in it: which texts spell a document. It
leaves open how characters are escaped and where space stands between tokens, so that both
ways of writing a document, on one line and indented, are spellings of it.
-/

namespace Multitarget.Json

/-! ## Texts -/

/-- A character inside quotes is spelled as itself, by a letter behind a backslash, by its code unit
or by its two surrogates. -/
inductive SpellsCharacter (character : Char) : List Char → Prop where
  | itself (visible : 0x20 ≤ character.toNat) (noQuote : character ≠ '"')
      (noBackslash : character ≠ '\\') : SpellsCharacter character [character]
  | letter {letter : Char} (stands : simpleEscape letter = some character) :
      SpellsCharacter character ['\\', letter]
  | unit (single : character.toNat < 0x10000) :
      SpellsCharacter character (unitEscape character.toNat)
  | pair {high low : Nat} (isHigh : 0xD800 ≤ high ∧ high ≤ 0xDBFF)
      (isLow : 0xDC00 ≤ low ∧ low ≤ 0xDFFF)
      (both : 0x10000 + (high - 0xD800) * 0x400 + (low - 0xDC00) = character.toNat) :
      SpellsCharacter character (unitEscape high ++ unitEscape low)

/-- The characters of a text are spelled one after another. -/
inductive SpellsText : List Char → List Char → Prop where
  | nil : SpellsText [] []
  | cons {character : Char} {text spelling rest : List Char}
      (first : SpellsCharacter character spelling) (others : SpellsText text rest) :
      SpellsText (character :: text) (spelling ++ rest)

/-! ## Documents -/

/-- Space between tokens, as it is written: spaces and line feeds. -/
def IsGap (gap : List Char) : Prop :=
  ∀ character ∈ gap, character = ' ' ∨ character = '\n'

mutual

/-- A text spells a document. Names of members are not repeated, numerals are not too long, and
there are no numbers with a fraction. -/
inductive Spells : Document → List Char → Prop where
  | null : Spells .null "null".toList
  | bool (value : Bool) : Spells (.bool value) (if value then "true".toList else "false".toList)
  | int {value : Int} (short : (Text.decimal value.natAbs).length ≤ Text.numeralLimit) :
      Spells (.int value) (Text.integer value)
  | text {value : String} {spelling : List Char} (spells : SpellsText value.toList spelling) :
      Spells (.text value) ('"' :: (spelling ++ ['"']))
  | emptyArray : Spells (.array []) ['[', ']']
  | array {items : List Document} {gap spelling : List Char} (space : IsGap gap)
      (spells : SpellsItems items spelling) : Spells (.array items) ('[' :: (gap ++ spelling))
  | emptyObject : Spells (.object []) ['\x7b', '\x7d']
  | object {members : List (String × Document)} {gap spelling : List Char} (space : IsGap gap)
      (spells : SpellsMembers members spelling) :
      Spells (.object members) ('\x7b' :: (gap ++ spelling))

/-- A text spells the items of an array from the first one on, with the closing bracket. -/
inductive SpellsItems : List Document → List Char → Prop where
  | last {item : Document} {spelling gap : List Char} (first : Spells item spelling)
      (space : IsGap gap) : SpellsItems [item] (spelling ++ (gap ++ [']']))
  | more {item : Document} {items : List Document} {spelling gap rest : List Char}
      (first : Spells item spelling) (space : IsGap gap) (others : SpellsItems items rest) :
      SpellsItems (item :: items) (spelling ++ ',' :: (gap ++ rest))

/-- A text spells the members of an object from the first one on, with the closing brace. -/
inductive SpellsMembers : List (String × Document) → List Char → Prop where
  | last {name : String} {item : Document} {spellingName spelling gap : List Char}
      (named : SpellsText name.toList spellingName) (first : Spells item spelling)
      (space : IsGap gap) :
      SpellsMembers [(name, item)]
        ('"' :: (spellingName ++ '"' :: ':' :: ' ' :: (spelling ++ (gap ++ ['\x7d']))))
  | more {name : String} {item : Document} {members : List (String × Document)}
      {spellingName spelling gap rest : List Char} (named : SpellsText name.toList spellingName)
      (first : Spells item spelling) (space : IsGap gap)
      (fresh : name ∉ members.map Prod.fst) (others : SpellsMembers members rest) :
      SpellsMembers ((name, item) :: members)
        ('"' :: (spellingName ++ '"' :: ':' :: ' ' :: (spelling ++ ',' :: (gap ++ rest))))

end

/-! ## Characters of a spelling -/

/-- Whether a text holds no control character but line feeds. -/
def IsShown (text : List Char) : Prop :=
  ∀ character ∈ text, character = '\n' ∨ 0x20 ≤ character.toNat

instance (text : List Char) : Decidable (IsShown text) :=
  List.decidableBAll (fun character => character = '\n' ∨ 0x20 ≤ character.toNat) text

theorem IsShown.append {first second : List Char} (shown : IsShown first)
    (shownSecond : IsShown second) : IsShown (first ++ second) := by
  intro character listed
  rcases List.mem_append.mp listed with early | late
  · exact shown character early
  · exact shownSecond character late

theorem IsShown.cons {character : Char} {text : List Char} (visible : 0x20 ≤ character.toNat)
    (shown : IsShown text) : IsShown (character :: text) := by
  intro other listed
  rcases List.mem_cons.mp listed with rfl | later
  · exact .inr visible
  · exact shown other later

theorem isShown_gap {gap : List Char} (space : IsGap gap) : IsShown gap := by
  intro character listed
  rcases space character listed with rfl | rfl
  · exact .inr (by decide)
  · exact .inl rfl

theorem isShown_unitEscape (unit : Nat) : IsShown (unitEscape unit) := by
  have visible : ∀ value < 16, 0x20 ≤ (Text.hexDigit value).toNat := by decide
  have digit (number : Nat) : 0x20 ≤ (Text.hexDigit (number % 16)).toNat :=
    visible _ (Nat.mod_lt _ (by decide))
  apply IsShown.cons (by decide)
  apply IsShown.cons (by decide)
  exact .cons (digit _) (.cons (digit _) (.cons (digit _) (.cons (digit _) (by decide))))

theorem isShown_character {character : Char} {spelling : List Char}
    (spells : SpellsCharacter character spelling) : IsShown spelling := by
  cases spells with
  | itself visible _ _ => exact .cons visible (by decide)
  | @letter letter stands =>
      have visible : 0x20 ≤ letter.toNat := by
        unfold simpleEscape at stands
        split at stands <;> first | decide | cases stands
      exact .cons (by decide) (.cons visible (by decide))
  | unit _ => exact isShown_unitEscape _
  | pair _ _ _ => exact (isShown_unitEscape _).append (isShown_unitEscape _)

theorem isShown_text {text spelling : List Char} (spells : SpellsText text spelling) :
    IsShown spelling := by
  induction spells with
  | nil => decide
  | cons first _ ih => exact (isShown_character first).append ih

/-- The name of a member and what stands behind it. -/
theorem isShown_member {name spelling text : List Char} (named : SpellsText name spelling)
    (shown : IsShown text) : IsShown ('"' :: (spelling ++ '"' :: ':' :: ' ' :: text)) := by
  have value : IsShown ('"' :: ':' :: ' ' :: text) :=
    .cons (by decide) (.cons (by decide) (.cons (by decide) shown))
  exact .cons (by decide) ((isShown_text named).append value)

theorem isShown_integer (value : Int) : IsShown (Text.integer value) := by
  have digits (number : Nat) : IsShown (Text.decimal number) := by
    intro character listed
    have digit := Text.isDigit_of_mem_decimal listed
    simp only [Text.isDigit, Bool.and_eq_true, decide_eq_true_eq] at digit
    exact .inr (by omega)
  cases value with
  | ofNat number => exact digits number
  | negSucc number => exact .cons (by decide) (digits _)

mutual

/-- The spelling of a document holds no control character but line feeds. -/
theorem isShown_spells {document : Document} {text : List Char} (spells : Spells document text) :
    IsShown text := by
  cases spells with
  | null => decide
  | bool value => cases value <;> decide
  | int _ => exact isShown_integer _
  | text named => exact .cons (by decide) ((isShown_text named).append (by decide))
  | emptyArray => decide
  | array space spelled =>
      exact .cons (by decide) ((isShown_gap space).append (isShown_items spelled))
  | emptyObject => decide
  | object space spelled =>
      exact .cons (by decide) ((isShown_gap space).append (isShown_members spelled))
termination_by text.length

theorem isShown_items {items : List Document} {text : List Char}
    (spells : SpellsItems items text) : IsShown text := by
  cases spells with
  | last first space => exact (isShown_spells first).append ((isShown_gap space).append (by decide))
  | more first space others =>
      have behind := (isShown_gap space).append (isShown_items others)
      exact (isShown_spells first).append (.cons (by decide) behind)
termination_by text.length

theorem isShown_members {members : List (String × Document)} {text : List Char}
    (spells : SpellsMembers members text) : IsShown text := by
  cases spells with
  | last named first space =>
      apply isShown_member named
      exact (isShown_spells first).append ((isShown_gap space).append (by decide))
  | more named first space _ others =>
      have behind := (isShown_gap space).append (isShown_members others)
      apply isShown_member named
      exact (isShown_spells first).append (.cons (by decide) behind)
termination_by text.length

end

/-! ## Escapes -/

theorem escape_spells (ascii : Bool) (character : Char) :
    SpellsCharacter character (escape ascii character) := by
  unfold escape
  dsimp only
  split
  next same => subst same; exact .letter rfl
  next noQuote =>
  split
  next same => subst same; exact .letter rfl
  next noBackslash =>
  iterate 5
    split
    next same => subst same; exact .letter rfl
  split
  next control => exact .unit (by omega)
  next visible =>
  split
  · split
    next single => exact .unit single
    next large =>
      have bound : character.toNat < 0x110000 := by
        rcases character.valid with low | ⟨_, high⟩
        · exact Nat.lt_trans low (by decide)
        · exact high
      exact .pair (by omega) (by omega) (by omega)
  · exact .itself (by omega) noQuote noBackslash

theorem flatMap_escape_spells (ascii : Bool) (text : List Char) :
    SpellsText text (text.flatMap (escape ascii)) := by
  induction text with
  | nil => exact .nil
  | cons character rest ih => exact .cons (escape_spells ascii character) ih

theorem printText_spells (ascii : Bool) (text : String) :
    Spells (.text text) (printText ascii text) :=
  .text (flatMap_escape_spells ascii text.toList)

/-! ## Plain documents -/

mutual

/-- Whether a document holds no number with a fraction and no repeated name of a member. -/
def IsPlain : Document → Prop
  | .real _ => False
  | .array items => ArePlain items
  | .object members => (members.map Prod.fst).Nodup ∧ ArePlainMembers members
  | _ => True

/-- Whether documents are plain. -/
def ArePlain : List Document → Prop
  | [] => True
  | item :: rest => IsPlain item ∧ ArePlain rest

/-- Whether the documents of members are plain. -/
def ArePlainMembers : List (String × Document) → Prop
  | [] => True
  | (_, item) :: rest => IsPlain item ∧ ArePlainMembers rest

end

theorem arePlain_iff (items : List Document) : ArePlain items ↔ ∀ item ∈ items, IsPlain item := by
  induction items with
  | nil => simp [ArePlain]
  | cons item rest ih => simp [ArePlain, ih]

theorem arePlainMembers_iff (members : List (String × Document)) :
    ArePlainMembers members ↔ ∀ member ∈ members, IsPlain member.2 := by
  induction members with
  | nil => simp [ArePlainMembers]
  | cons member rest ih => simp [ArePlainMembers, ih]

theorem isPlain_ofText? (text : Option String) : IsPlain (.ofText? text) := by
  cases text <;> trivial

/-! ## Both ways of writing -/

theorem isGap_nil : IsGap [] := by
  simp [IsGap]

theorem isGap_space : IsGap [' '] := by
  simp [IsGap]

theorem isGap_newLine (depth : Nat) : IsGap (newLine depth) := by
  intro character listed
  rcases List.mem_cons.mp listed with rfl | indented
  · exact .inr rfl
  · exact .inl (List.eq_of_mem_replicate indented)

mutual

/-- On one line a plain document is spelled, if its numerals are not too long. -/
theorem printLine_spells (ascii : Bool) : (document : Document) → IsPlain document →
    isWritable document = true → Spells document (printLine ascii document)
  | .null, _, _ => .null
  | .bool value, _, _ => .bool value
  | .int _, _, writable => .int (of_decide_eq_true writable)
  | .text text, _, _ => printText_spells ascii text
  | .array [], _, _ => .emptyArray
  | .array (item :: rest), plain, writable =>
      .array isGap_nil (printLineItems_spells ascii (item :: rest) (by simp) plain writable)
  | .object [], _, _ => .emptyObject
  | .object (member :: rest), plain, writable =>
      .object isGap_nil
        (printLineMembers_spells ascii (member :: rest) (by simp) plain.1 plain.2 writable)

theorem printLineItems_spells (ascii : Bool) : (items : List Document) → items ≠ [] →
    ArePlain items → areWritable items = true → SpellsItems items (printLineItems ascii items)
  | [], held, _, _ => absurd rfl held
  | [item], _, plain, writable =>
      .last (printLine_spells ascii item plain.1 (Bool.and_eq_true_iff.mp writable).1) isGap_nil
  | item :: next :: rest, _, plain, writable =>
      .more (printLine_spells ascii item plain.1 (Bool.and_eq_true_iff.mp writable).1) isGap_space
        (printLineItems_spells ascii (next :: rest) (by simp) plain.2
          (Bool.and_eq_true_iff.mp writable).2)

theorem printLineMembers_spells (ascii : Bool) : (members : List (String × Document)) →
    members ≠ [] → (members.map Prod.fst).Nodup → ArePlainMembers members →
      areWritableMembers members = true → SpellsMembers members (printLineMembers ascii members)
  | [], held, _, _, _ => absurd rfl held
  | [(name, item)], _, _, plain, writable => by
      have first := printLine_spells ascii item plain.1 (Bool.and_eq_true_iff.mp writable).1
      have spells := SpellsMembers.last (flatMap_escape_spells ascii name.toList) first isGap_nil
      simpa [printLineMembers, printText] using spells
  | (name, item) :: next :: rest, _, distinct, plain, writable => by
      have first := printLine_spells ascii item plain.1 (Bool.and_eq_true_iff.mp writable).1
      obtain ⟨fresh, others⟩ := List.nodup_cons.mp distinct
      have spells := SpellsMembers.more (flatMap_escape_spells ascii name.toList) first isGap_space
        fresh (printLineMembers_spells ascii (next :: rest) (by simp) others plain.2
          (Bool.and_eq_true_iff.mp writable).2)
      simpa [printLineMembers, printText] using spells

end

mutual

/-- Indented a plain document is spelled, if its numerals are not too long. -/
theorem printIndented_spells (depth : Nat) : (document : Document) → IsPlain document →
    isWritable document = true → Spells document (printIndented depth document)
  | .null, _, _ => .null
  | .bool value, _, _ => .bool value
  | .int _, _, writable => .int (of_decide_eq_true writable)
  | .text text, _, _ => printText_spells false text
  | .array [], _, _ => .emptyArray
  | .array (item :: rest), plain, writable => by
      obtain ⟨spelling, written, spells⟩ :=
        printIndentedItems_spells depth (item :: rest) (by simp) plain writable
      rw [printIndented, written]
      · exact .array (isGap_newLine _) spells
      · nofun
  | .object [], _, _ => .emptyObject
  | .object (member :: rest), plain, writable => by
      obtain ⟨spelling, written, spells⟩ :=
        printIndentedMembers_spells depth (member :: rest) (by simp) plain.1 plain.2 writable
      rw [printIndented, written]
      · exact .object (isGap_newLine _) spells
      · nofun

theorem printIndentedItems_spells (depth : Nat) : (items : List Document) → items ≠ [] →
    ArePlain items → areWritable items = true → ∃ spelling,
      printIndentedItems depth items = newLine (depth + 1) ++ spelling ∧ SpellsItems items spelling
  | [], held, _, _ => absurd rfl held
  | [item], _, plain, writable => by
      have first :=
        printIndented_spells (depth + 1) item plain.1 (Bool.and_eq_true_iff.mp writable).1
      exact ⟨_, by simp [printIndentedItems], .last first (isGap_newLine depth)⟩
  | item :: next :: rest, _, plain, writable => by
      have first :=
        printIndented_spells (depth + 1) item plain.1 (Bool.and_eq_true_iff.mp writable).1
      obtain ⟨spelling, written, spells⟩ :=
        printIndentedItems_spells depth (next :: rest) (by simp) plain.2
          (Bool.and_eq_true_iff.mp writable).2
      have all := SpellsItems.more first (isGap_newLine (depth + 1)) spells
      exact ⟨_, by simp [printIndentedItems, written], all⟩

theorem printIndentedMembers_spells (depth : Nat) : (members : List (String × Document)) →
    members ≠ [] → (members.map Prod.fst).Nodup → ArePlainMembers members →
      areWritableMembers members = true → ∃ spelling,
        printIndentedMembers depth members = newLine (depth + 1) ++ spelling ∧
          SpellsMembers members spelling
  | [], held, _, _, _ => absurd rfl held
  | [(name, item)], _, _, plain, writable => by
      have named := flatMap_escape_spells false name.toList
      have first :=
        printIndented_spells (depth + 1) item plain.1 (Bool.and_eq_true_iff.mp writable).1
      exact ⟨_, by simp [printIndentedMembers, printText], .last named first (isGap_newLine depth)⟩
  | (name, item) :: next :: rest, _, distinct, plain, writable => by
      have named := flatMap_escape_spells false name.toList
      have first :=
        printIndented_spells (depth + 1) item plain.1 (Bool.and_eq_true_iff.mp writable).1
      obtain ⟨fresh, others⟩ := List.nodup_cons.mp distinct
      obtain ⟨spelling, written, spells⟩ :=
        printIndentedMembers_spells depth (next :: rest) (by simp) others plain.2
          (Bool.and_eq_true_iff.mp writable).2
      have all := SpellsMembers.more named first (isGap_newLine (depth + 1)) fresh spells
      exact ⟨_, by simp [printIndentedMembers, printText, written], all⟩

end

end Multitarget.Json
