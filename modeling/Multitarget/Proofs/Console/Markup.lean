import Multitarget.Console.Markup

/-!
# Reading escaped texts

An escaped text is read as text alone, so writing it never fails. It is read as it was but for
two things: a backslash right before a bracket that opens no tag is lost, and a single backslash
at the end is doubled.
-/

namespace Multitarget.Console.Markup

variable {text rest inside tail : List Char} {character : Char} {run : Nat}

/-! ## Tags -/

/-- Whether characters can stand inside a tag. -/
def IsTag (inside : List Char) : Prop :=
  (∃ first others, inside = first :: others ∧ isTagStart first = true) ∧
    '[' ∉ inside ∧ ']' ∉ inside

theorem untilBracket_append (noOpening : '[' ∉ inside) (noClosing : ']' ∉ inside) :
    untilBracket (inside ++ ']' :: rest) = some inside := by
  induction inside with
  | nil => rfl
  | cons character inside ih =>
      simp only [List.mem_cons, not_or] at noOpening noClosing
      simp [untilBracket, Ne.symm noOpening.1, Ne.symm noClosing.1,
        ih noOpening.2 noClosing.2]

theorem of_untilBracket (found : untilBracket text = some inside) :
    '[' ∉ inside ∧ ']' ∉ inside ∧ ∃ rest, text = inside ++ ']' :: rest := by
  induction text generalizing inside with
  | nil => cases found
  | cons character text ih =>
      rw [untilBracket] at found
      split at found
      next same =>
        cases found
        exact ⟨List.not_mem_nil, List.not_mem_nil, text, by rw [same]; rfl⟩
      next noClosing =>
        split at found
        next => cases found
        next noOpening =>
          obtain ⟨further, foundFurther, rfl⟩ := Option.map_eq_some_iff.mp found
          obtain ⟨noOpenings, noClosings, behind, split⟩ := ih foundFurther
          refine ⟨?_, ?_, behind, by rw [split]; rfl⟩
          · simpa [Ne.symm noOpening] using noOpenings
          · simpa [Ne.symm noClosing] using noClosings

theorem tagInside?_append (isTag : IsTag inside) :
    tagInside? (inside ++ ']' :: rest) = some inside := by
  obtain ⟨⟨first, others, rfl, starts⟩, noOpening, noClosing⟩ := isTag
  simp only [List.mem_cons, not_or] at noOpening noClosing
  rw [List.cons_append, tagInside?, if_pos starts,
    untilBracket_append noOpening.2 noClosing.2]
  rfl

theorem of_tagInside? (found : tagInside? text = some inside) :
    IsTag inside ∧ ∃ rest, text = inside ++ ']' :: rest := by
  cases text with
  | nil => cases found
  | cons first text =>
      rw [tagInside?] at found
      split at found
      next starts =>
        obtain ⟨others, foundOthers, rfl⟩ := Option.map_eq_some_iff.mp found
        obtain ⟨noOpening, noClosing, rest, split⟩ := of_untilBracket foundOthers
        have notOpening : first ≠ '[' := by
          rintro rfl
          revert starts
          decide
        have notClosing : first ≠ ']' := by
          rintro rfl
          revert starts
          decide
        refine ⟨⟨⟨first, others, rfl, starts⟩, ?_, ?_⟩, rest, by rw [split]; rfl⟩
        · simpa [Ne.symm notOpening] using noOpening
        · simpa [Ne.symm notClosing] using noClosing
      next => cases found

/-- Follows a text as it is escaped: over backslashes, tags, brackets that open no tag, and other
characters. -/
theorem escape_induction {motive : List Char → Prop} (nil : motive [])
    (backslash : ∀ rest, motive rest → motive ('\\' :: rest))
    (tag : ∀ inside rest, IsTag inside → motive rest → motive ('[' :: (inside ++ ']' :: rest)))
    (bracket : ∀ rest, tagInside? rest = none → motive rest → motive ('[' :: rest))
    (other : ∀ character rest, character ≠ '\\' → character ≠ '[' → motive rest →
      motive (character :: rest)) : (text : List Char) → motive text
  | [] => nil
  | character :: rest => by
      by_cases isBackslash : character = '\\'
      · subst isBackslash
        exact backslash rest (escape_induction nil backslash tag bracket other rest)
      · by_cases isBracket : character = '['
        · subst isBracket
          cases found : tagInside? rest with
          | none => exact bracket rest found (escape_induction nil backslash tag bracket other rest)
          | some inside =>
              obtain ⟨isTag, behind, split⟩ := of_tagInside? found
              have shorter : behind.length < rest.length + 1 := by
                rw [split, List.length_append, List.length_cons]
                omega
              rw [split]
              exact tag inside behind isTag
                (escape_induction nil backslash tag bracket other behind)
        · exact other character rest isBackslash isBracket
            (escape_induction nil backslash tag bracket other rest)
termination_by text => text.length

/-! ## Escaping -/

theorem escapeFrom_backslash (run : Nat) (rest : List Char) :
    escapeFrom run 0 ('\\' :: rest) = escapeFrom (run + 1) 0 rest := by
  simp [escapeFrom]

theorem escapeFrom_skip (first rest : List Char) :
    escapeFrom 0 first.length (first ++ rest) = first ++ escapeFrom 0 0 rest := by
  induction first with
  | nil => rfl
  | cons character first ih => simp [escapeFrom, ih]

theorem escapeFrom_tag (run : Nat) (isTag : IsTag inside) (rest : List Char) :
    escapeFrom run 0 ('[' :: (inside ++ ']' :: rest)) =
      List.replicate (2 * run + 1) '\\' ++ '[' :: (inside ++ ']' :: escapeFrom 0 0 rest) := by
  have whole := escapeFrom_skip (inside ++ [']']) rest
  simp only [List.length_append, List.length_singleton, List.append_assoc,
    List.singleton_append] at whole
  simp [escapeFrom, tagInside?_append isTag, whole]

theorem escapeFrom_bracket (run : Nat) (noTag : tagInside? rest = none) :
    escapeFrom run 0 ('[' :: rest) =
      List.replicate run '\\' ++ '[' :: escapeFrom 0 0 rest := by
  simp [escapeFrom, noTag]

theorem escapeFrom_other (run : Nat) (noBackslash : character ≠ '\\')
    (noBracket : character ≠ '[') : escapeFrom run 0 (character :: rest) =
      List.replicate run '\\' ++ character :: escapeFrom 0 0 rest := by
  simp [escapeFrom, noBackslash, noBracket]

/-! ## Pieces -/

theorem pieces_backslashes (position run count : Nat) (rest : List Char) :
    pieces position run 0 (List.replicate count '\\' ++ rest) =
      pieces (position + count) (run + count) 0 rest := by
  induction count generalizing position run with
  | zero => rfl
  | succ count ih =>
      rw [List.replicate_succ, List.cons_append, pieces]
      simp only [if_true, ih, Nat.add_assoc, Nat.add_comm 1]

theorem pieces_skip (position : Nat) (first rest : List Char) :
    pieces position 0 first.length (first ++ rest) =
      pieces (position + first.length) 0 0 rest := by
  induction first generalizing position with
  | nil => rfl
  | cons character first ih =>
      rw [List.length_cons, List.cons_append, pieces, ih, Nat.add_assoc, Nat.add_comm 1]

theorem pieces_escapedTag (position run : Nat) (isTag : IsTag inside) (rest : List Char) :
    pieces position (2 * run + 1) 0 ('[' :: (inside ++ ']' :: rest)) =
      .text (List.replicate run '\\' ++ '[' :: (inside ++ [']'])) ::
        pieces (position + 1 + (inside.length + 1)) 0 0 rest := by
  have whole := pieces_skip (position + 1) (inside ++ [']']) rest
  simp only [List.length_append, List.length_singleton, List.append_assoc,
    List.singleton_append] at whole
  have odd : (2 * run + 1) % 2 = 1 := by omega
  have half : (2 * run + 1) / 2 = run := by omega
  simp [pieces, tagInside?_append isTag, odd, half, whole]

theorem pieces_bracket (position run : Nat) (noTag : tagInside? rest = none) :
    pieces position run 0 ('[' :: rest) =
      .text (List.replicate (run - 1) '\\' ++ ['[']) :: pieces (position + 1) 0 0 rest := by
  simp [pieces, noTag]

theorem pieces_other (position run : Nat) (noBackslash : character ≠ '\\')
    (noBracket : character ≠ '[') :
    pieces position run 0 (character :: rest) =
      .text (List.replicate run '\\' ++ [character]) :: pieces (position + 1) 0 0 rest := by
  simp [pieces, noBackslash, noBracket]

/-- Whether pieces are text only, and which text. -/
inductive AreText : List Piece → List Char → Prop where
  | nil : AreText [] []
  | cons (characters : List Char) {pieces : List Piece} {text : List Char}
      (others : AreText pieces text) : AreText (.text characters :: pieces) (characters ++ text)

/-! ## What is left of an escaped text -/

/-- Whether a text starts with an opening bracket that opens no tag. -/
def opensNoTag : List Char → Bool
  | '[' :: rest => (tagInside? rest).isNone
  | _ => false

/-- A text without the backslashes right before a bracket that opens no tag. -/
def thin : List Char → List Char
  | [] => []
  | character :: rest =>
    if character = '\\' ∧ opensNoTag rest then thin rest else character :: thin rest

theorem thin_cons (kept : character ≠ '\\' ∨ opensNoTag rest = false) :
    thin (character :: rest) = character :: thin rest := by
  rw [thin, if_neg]
  rintro ⟨isBackslash, opens⟩
  rcases kept with other | others
  · exact other isBackslash
  · rw [others] at opens
    cases opens

theorem thin_backslashes (count : Nat) (kept : opensNoTag rest = false) :
    thin (List.replicate count '\\' ++ rest) = List.replicate count '\\' ++ thin rest := by
  induction count with
  | zero => rfl
  | succ count ih =>
      have keptToo : opensNoTag (List.replicate count '\\' ++ rest) = false := by
        cases count with
        | zero => exact kept
        | succ count => rfl
      rw [List.replicate_succ, List.cons_append, thin_cons (.inr keptToo), ih]
      rfl

theorem thin_bracket (count : Nat) (noTag : tagInside? rest = none) :
    thin (List.replicate count '\\' ++ '[' :: rest) =
      List.replicate (count - 1) '\\' ++ '[' :: thin rest := by
  have bracket : thin ('[' :: rest) = '[' :: thin rest := thin_cons (.inl (by decide))
  cases count with
  | zero => exact bracket
  | succ count =>
      -- the last backslash stands right before the bracket, and is the only one that is lost
      have lost : thin ('\\' :: '[' :: rest) = '[' :: thin rest := by
        rw [thin, if_pos ⟨rfl, by simp [opensNoTag, noTag]⟩, bracket]
      rw [List.replicate_succ', List.append_assoc, List.singleton_append,
        thin_backslashes count rfl, lost]
      rfl

theorem opensNoTag_of_head? (other : text.head? ≠ some '[') : opensNoTag text = false := by
  unfold opensNoTag
  split
  · exact absurd rfl other
  · rfl

theorem thin_append (noBracket : '[' ∉ inside) (other : character ≠ '[') :
    thin (inside ++ character :: rest) = inside ++ thin (character :: rest) := by
  induction inside with
  | nil => rfl
  | cons first inside ih =>
      simp only [List.mem_cons, not_or] at noBracket
      have kept : opensNoTag (inside ++ character :: rest) = false := by
        apply opensNoTag_of_head?
        cases inside with
        | nil => simpa using other
        | cons second inside =>
            simp only [List.mem_cons, not_or] at noBracket
            simpa using Ne.symm noBracket.2.1
      rw [List.cons_append, thin_cons (.inr kept), ih noBracket.2, List.cons_append]

/-! ## No new tags -/

theorem untilBracket_of_not_mem (noClosing : ']' ∉ text) : untilBracket text = none := by
  cases found : untilBracket text with
  | none => rfl
  | some inside =>
      obtain ⟨_, _, rest, rfl⟩ := of_untilBracket found
      simp at noClosing

theorem tagInside?_of_not_mem (noClosing : ']' ∉ text) : tagInside? text = none := by
  cases found : tagInside? text with
  | none => rfl
  | some inside =>
      obtain ⟨_, rest, rfl⟩ := of_tagInside? found
      simp at noClosing

theorem untilBracket_backslashes (count : Nat) (text : List Char) :
    untilBracket (List.replicate count '\\' ++ text) = none ↔ untilBracket text = none := by
  induction count with
  | zero => rfl
  | succ count ih => simp [List.replicate_succ, untilBracket, ih]

/-- Escaping brings no closing bracket closer, and neither does what stands behind the text. -/
theorem untilBracket_escape (run : Nat) (noTag : untilBracket text = none)
    (noClosing : ']' ∉ tail) : untilBracket (escapeFrom run 0 text ++ tail) = none := by
  have bracket (text : List Char) : untilBracket ('[' :: text) = none := rfl
  induction text using escape_induction generalizing run with
  | nil =>
      rw [escapeFrom, untilBracket_backslashes]
      exact untilBracket_of_not_mem noClosing
  | backslash rest ih =>
      rw [escapeFrom_backslash]
      apply ih
      simpa [untilBracket] using noTag
  | tag inside rest isTag _ =>
      rw [escapeFrom_tag run isTag, List.append_assoc, List.cons_append, untilBracket_backslashes]
      exact bracket _
  | bracket rest none _ =>
      rw [escapeFrom_bracket run none, List.append_assoc, List.cons_append,
        untilBracket_backslashes]
      exact bracket _
  | other character rest noBackslash noBracket ih =>
      rw [escapeFrom_other run noBackslash noBracket, List.append_assoc, List.cons_append,
        untilBracket_backslashes]
      rw [untilBracket] at noTag ⊢
      split at noTag
      · cases noTag
      · simp only [if_neg noBracket, Option.map_eq_none_iff] at noTag ⊢
        simp_all

theorem exists_escapeFrom_succ (run : Nat) (text : List Char) :
    ∃ others, escapeFrom (run + 1) 0 text = '\\' :: others := by
  induction text using escape_induction generalizing run with
  | nil => exact ⟨_, rfl⟩
  | backslash rest ih =>
      rw [escapeFrom_backslash]
      exact ih (run + 1)
  | tag inside rest isTag _ => exact ⟨_, escapeFrom_tag (run + 1) isTag rest⟩
  | bracket rest noTag _ => exact ⟨_, escapeFrom_bracket (run + 1) noTag⟩
  | other character rest noBackslash noBracket _ =>
      exact ⟨_, escapeFrom_other (run + 1) noBackslash noBracket⟩

/-- Escaping makes no tag of what is none. -/
theorem tagInside?_escape (noTag : tagInside? text = none) (noClosing : ']' ∉ tail) :
    tagInside? (escapeFrom 0 0 text ++ tail) = none := by
  induction text using escape_induction with
  | nil => exact tagInside?_of_not_mem noClosing
  | backslash rest _ =>
      obtain ⟨others, escaped⟩ := exists_escapeFrom_succ 0 rest
      rw [escapeFrom_backslash, escaped]
      rfl
  | tag inside rest isTag _ =>
      rw [escapeFrom_tag 0 isTag]
      rfl
  | bracket rest none _ =>
      rw [escapeFrom_bracket 0 none]
      rfl
  | other character rest noBackslash noBracket _ =>
      rw [escapeFrom_other 0 noBackslash noBracket]
      simp only [tagInside?, List.replicate_zero, List.nil_append, List.cons_append] at noTag ⊢
      split at noTag
      next starts =>
        rw [if_pos starts, untilBracket_escape 0 (Option.map_eq_none_iff.mp noTag) noClosing]
        rfl
      next starts => rw [if_neg starts]

/-! ## Escaped texts are read as text -/

/-- A text without opening brackets is read as it is. -/
theorem areText_of_not_mem (position run : Nat) (noBracket : '[' ∉ text) :
    AreText (pieces position run 0 text) (List.replicate run '\\' ++ text) := by
  induction text generalizing position run with
  | nil => exact .cons _ .nil
  | cons character text ih =>
      simp only [List.mem_cons, not_or] at noBracket
      by_cases isBackslash : character = '\\'
      · subst isBackslash
        have behind := ih (position + 1) (run + 1) noBracket.2
        rwa [List.replicate_succ', List.append_assoc, List.singleton_append] at behind
      · have behind := ih (position + 1) 0 noBracket.2
        rw [pieces_other position run isBackslash (Ne.symm noBracket.1)]
        simpa using AreText.cons (List.replicate run '\\' ++ [character]) behind

/-- The pieces of a text that was escaped behind a run of backslashes, and of a text without
brackets behind it. -/
theorem areText_escapeFrom (position run : Nat) (text : List Char) (noOpening : '[' ∉ tail)
    (noClosing : ']' ∉ tail) : AreText (pieces position 0 0 (escapeFrom run 0 text ++ tail))
      (thin (List.replicate run '\\' ++ text) ++ tail) := by
  induction text using escape_induction generalizing position run with
  | nil =>
      have kept := thin_backslashes run (rfl : opensNoTag [] = false)
      have behind := areText_of_not_mem (position + run) run noOpening
      rw [escapeFrom, pieces_backslashes, kept]
      simpa [thin] using behind
  | backslash rest ih =>
      have behind := ih position (run + 1)
      rw [List.replicate_succ', List.append_assoc, List.singleton_append] at behind
      rwa [escapeFrom_backslash]
  | tag inside rest isTag ih =>
      have behind := ih (position + (2 * run + 1) + 1 + (inside.length + 1)) 0
      have whole : thin ('[' :: (inside ++ ']' :: rest)) = '[' :: (inside ++ ']' :: thin rest) := by
        rw [thin_cons (.inl (by decide)), thin_append isTag.2.1 (by decide),
          thin_cons (.inl (by decide))]
      have opens : opensNoTag ('[' :: (inside ++ ']' :: rest)) = false := by
        simp [opensNoTag, tagInside?_append isTag]
      rw [escapeFrom_tag run isTag, thin_backslashes run opens, whole]
      simp only [List.append_assoc, List.cons_append, pieces_backslashes, Nat.zero_add,
        pieces_escapedTag _ run isTag]
      simpa using AreText.cons (List.replicate run '\\' ++ '[' :: (inside ++ [']'])) behind
  | bracket rest noTag ih =>
      have behind := ih (position + run + 1) 0
      rw [escapeFrom_bracket run noTag, thin_bracket run noTag]
      simp only [List.append_assoc, List.cons_append, pieces_backslashes, Nat.zero_add,
        pieces_bracket _ run (tagInside?_escape noTag noClosing)]
      simpa using AreText.cons (List.replicate (run - 1) '\\' ++ ['[']) behind
  | other character rest noBackslash noBracket ih =>
      have behind := ih (position + run + 1) 0
      have opens : opensNoTag (character :: rest) = false :=
        opensNoTag_of_head? (by simpa using noBracket)
      rw [escapeFrom_other run noBackslash noBracket, thin_backslashes run opens,
        thin_cons (.inl noBackslash)]
      simp only [List.append_assoc, List.cons_append, pieces_backslashes, Nat.zero_add,
        pieces_other _ run noBackslash noBracket]
      simpa using AreText.cons (List.replicate run '\\' ++ [character]) behind

/-! ## Backslashes at the end -/

theorem endsInBackslash_iff : endsInBackslash text = true ↔
    text.reverse.head? = some '\\' ∧ text.reverse.tail.head? ≠ some '\\' := by
  unfold endsInBackslash
  split
  next same => simp [same]
  next others same =>
    rw [same]
    simp only [List.head?_cons, List.tail_cons, true_and, true_iff]
    intro second
    obtain ⟨further, split⟩ := List.head?_eq_some_iff.mp second
    exact others further split
  next _ others =>
    simp only [Bool.false_eq_true, false_iff, not_and]
    intro last
    obtain ⟨further, split⟩ := List.head?_eq_some_iff.mp last
    exact (others further split).elim

theorem endsInBackslash_append (other : character ≠ '\\') (first : List Char) :
    endsInBackslash (first ++ character :: rest) = endsInBackslash rest := by
  apply Bool.eq_iff_iff.mpr
  rw [endsInBackslash_iff, endsInBackslash_iff]
  simp only [List.reverse_append, List.reverse_cons, List.append_assoc, List.singleton_append]
  match rest.reverse with
  | [] => simp [other]
  | [last] => simp [other]
  | last :: before :: others => rfl

/-- Escaping keeps whether a text ends in one backslash. -/
theorem endsInBackslash_escapeFrom (run : Nat) (text : List Char) :
    endsInBackslash (escapeFrom run 0 text) =
      endsInBackslash (List.replicate run '\\' ++ text) := by
  induction text using escape_induction generalizing run with
  | nil => rw [escapeFrom, List.append_nil]
  | backslash rest ih =>
      rw [escapeFrom_backslash, ih, List.replicate_succ', List.append_assoc,
        List.singleton_append]
  | tag inside rest isTag ih =>
      have behind (before : List Char) (rest : List Char) :
          endsInBackslash (before ++ '[' :: (inside ++ ']' :: rest)) = endsInBackslash rest := by
        rw [endsInBackslash_append (by decide), endsInBackslash_append (by decide)]
      rw [escapeFrom_tag run isTag, behind, behind, ih 0, List.replicate_zero, List.nil_append]
  | bracket rest noTag ih =>
      rw [escapeFrom_bracket run noTag, endsInBackslash_append (by decide),
        endsInBackslash_append (by decide), ih 0, List.replicate_zero, List.nil_append]
  | other character rest noBackslash noBracket ih =>
      rw [escapeFrom_other run noBackslash noBracket, endsInBackslash_append noBackslash,
        endsInBackslash_append noBackslash, ih 0, List.replicate_zero, List.nil_append]

/-! ## Texts that come through -/

/-- What is read of a text that was escaped. -/
def passed (text : List Char) : List Char :=
  thin text ++ (if endsInBackslash text then ['\\'] else [])

/-- An escaped text is read as text alone, also where a text without brackets stands behind it. -/
theorem areText_escape_append (position : Nat) (text : List Char) (noOpening : '[' ∉ tail)
    (noClosing : ']' ∉ tail) :
    AreText (pieces position 0 0 (escape text ++ tail)) (passed text ++ tail) := by
  have same := endsInBackslash_escapeFrom 0 text
  rw [List.replicate_zero, List.nil_append] at same
  simp only [escape, passed, same]
  split
  next =>
    have noOpening : '[' ∉ '\\' :: tail := by simpa using noOpening
    have noClosing : ']' ∉ '\\' :: tail := by simpa using noClosing
    simpa using areText_escapeFrom position 0 text noOpening noClosing
  next => simpa using areText_escapeFrom position 0 text noOpening noClosing

theorem areText_escape (position : Nat) (text : List Char) :
    AreText (pieces position 0 0 (escape text)) (passed text) := by
  simpa using areText_escape_append position text List.not_mem_nil List.not_mem_nil

theorem thin_eq_of_starts (starts : thin text <+: text) : thin text = text := by
  induction text with
  | nil => rfl
  | cons character rest ih =>
      rw [thin] at starts ⊢
      split at starts
      next lost =>
        -- what stands behind the lost backslash is a bracket, and no backslash
        obtain ⟨rfl, opens⟩ := lost
        cases rest with
        | nil => cases opens
        | cons bracket rest =>
            have isBracket : bracket = '[' := by
              unfold opensNoTag at opens
              split at opens
              next same => exact (List.cons.inj same).1
              next => cases opens
            subst isBracket
            rw [thin_cons (.inl (by decide))] at starts
            exact absurd (List.cons_prefix_cons.mp starts).1 (by decide)
      next kept =>
        rw [if_neg kept, ih ((List.cons_prefix_cons.mp starts).2)]

/-- What is read of an escaped text is that text, unless a backslash is lost or doubled. -/
theorem passed_eq_self_iff :
    passed text = text ↔ thin text = text ∧ endsInBackslash text = false := by
  constructor
  · intro same
    have starts : thin text <+: text := ⟨_, same⟩
    have whole := thin_eq_of_starts starts
    refine ⟨whole, ?_⟩
    rw [passed, whole] at same
    cases ends : endsInBackslash text with
    | false => rfl
    | true => simp [ends] at same
  · rintro ⟨whole, ends⟩
    simp [passed, whole, ends]

theorem thin_sublist (text : List Char) : (thin text).Sublist text := by
  induction text with
  | nil => exact .slnil
  | cons character rest ih =>
      rw [thin]
      split
      · exact .cons character ih
      · exact ih.cons_cons character

/-- A backslash is lost only right before a bracket that opens no tag. -/
theorem thin_eq_self_iff : thin text = text ↔
    ∀ before rest, text = before ++ '\\' :: rest → opensNoTag rest = false := by
  induction text with
  | nil => simp [thin]
  | cons character text ih =>
      have shorter := (thin_sublist text).length_le
      rw [thin]
      split
      next lost =>
        have changed : thin text ≠ character :: text := by
          intro same
          rw [same, List.length_cons] at shorter
          omega
        apply iff_of_false changed
        intro kept
        rw [kept [] text (by rw [lost.1]; rfl)] at lost
        cases lost.2
      next kept =>
        rw [List.cons.injEq, and_iff_right rfl, ih]
        constructor
        · rintro all (_ | ⟨first, before⟩) rest split
          · obtain ⟨rfl, rfl⟩ := List.cons.inj split
            simpa using kept
          · exact all before rest (List.cons.inj split).2
        · intro all before rest split
          exact all (character :: before) rest (by rw [split]; rfl)

/-! ## Reading text -/

/-- The characters that the console does not drop. -/
def visible (text : List Char) : List Char :=
  text.filter fun character => !isSuppressed character

theorem layout_visible (whole : Bool) (text : List Char) :
    layout whole (visible text) = layout whole text := by
  simp [layout, visible]

theorem readPieces_of_areText {found : List Piece} (areText : AreText found text) (place : Nat)
    (opened : List Opened) :
    readPieces place opened found =
      .ok (visible text, opened.map fun tag => tag.span (place + (visible text).length)) := by
  induction areText generalizing place with
  | nil => rfl
  | cons characters _ ih =>
      rw [readPieces, ih]
      simp [visible, Nat.add_assoc]

theorem plain_of_areText (areText : AreText (pieces 0 0 0 text) rest) (whole : Bool) :
    plain whole text = .ok (layout whole rest) := by
  have read : read text = .ok (visible rest, []) := readPieces_of_areText areText 0 []
  have noFault : styleFault? whole (visible rest) [] = none := by
    simp [styleFault?]
  simp only [plain, read, bind, Except.bind, noFault, layout_visible]

end Multitarget.Console.Markup
