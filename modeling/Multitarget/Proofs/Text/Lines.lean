import Multitarget.Text.Lines

/-!
# Splitting and joining

A text is the join of its pieces, and pieces that do not hold the separator are the pieces of
their join. So texts that are joined line by line are equal only if their lines are.
-/

namespace Multitarget.Text

variable {separator character : Char} {text piece : List Char} {pieces : List (List Char)}

/-! ## Splitting -/

theorem splitAt_separator (separator : Char) (text : List Char) :
    splitAt separator (separator :: text) = [] :: splitAt separator text := by
  obtain ⟨piece, pieces, split⟩ := List.exists_cons_of_ne_nil (splitAt_ne_nil separator text)
  simp [splitAt, split]

theorem splitAt_cons (other : character ≠ separator)
    (split : splitAt separator text = piece :: pieces) :
    splitAt separator (character :: text) = (character :: piece) :: pieces := by
  simp [splitAt, split, other]

theorem not_mem_splitAt (listed : piece ∈ splitAt separator text) : separator ∉ piece := by
  induction text generalizing piece with
  | nil =>
      rw [List.mem_singleton.mp listed]
      exact List.not_mem_nil
  | cons character text ih =>
      by_cases same : character = separator
      · subst same
        rw [splitAt_separator] at listed
        rcases List.mem_cons.mp listed with rfl | later
        · exact List.not_mem_nil
        · exact ih later
      · obtain ⟨first, others, split⟩ :=
          List.exists_cons_of_ne_nil (splitAt_ne_nil separator text)
        rw [splitAt_cons same split] at listed
        rw [split] at ih
        rcases List.mem_cons.mp listed with rfl | later
        · intro held
          rcases List.mem_cons.mp held with rfl | behind
          · exact same rfl
          · exact ih List.mem_cons_self behind
        · exact ih (List.mem_cons_of_mem _ later)

theorem splitAt_of_not_mem (none : separator ∉ text) : splitAt separator text = [text] := by
  induction text with
  | nil => rfl
  | cons character text ih =>
      simp only [List.mem_cons, not_or] at none
      exact splitAt_cons (Ne.symm none.1) (ih none.2)

/-- The pieces on both sides of a separator are all pieces. -/
theorem splitAt_append_separator (text rest : List Char) :
    splitAt separator (text ++ separator :: rest) =
      splitAt separator text ++ splitAt separator rest := by
  induction text with
  | nil => exact splitAt_separator separator rest
  | cons character text ih =>
      by_cases same : character = separator
      · subst same
        rw [List.cons_append, splitAt_separator, splitAt_separator, ih]
        rfl
      · obtain ⟨first, others, split⟩ :=
          List.exists_cons_of_ne_nil (splitAt_ne_nil separator text)
        rw [split] at ih
        rw [List.cons_append, splitAt_cons same split, splitAt_cons same ih]
        rfl

theorem splitAt_append (none : separator ∉ piece) (text : List Char) :
    splitAt separator (piece ++ separator :: text) = piece :: splitAt separator text := by
  rw [splitAt_append_separator, splitAt_of_not_mem none]
  rfl

/-- What stands before the first separator, and what behind it, is read off a text. -/
theorem eq_of_append_separator {other rest : List Char} (none : separator ∉ piece)
    (noneToo : separator ∉ other) (same : piece ++ separator :: text = other ++ separator :: rest) :
    piece = other ∧ text = rest := by
  have pieces := splitAt_append none text
  rw [same, splitAt_append noneToo] at pieces
  obtain rfl : other = piece := (List.cons.inj pieces).1
  exact ⟨rfl, (List.cons.inj (List.append_cancel_left same)).2⟩

theorem length_splitAt (separator : Char) (text : List Char) :
    (splitAt separator text).length = text.count separator + 1 := by
  induction text with
  | nil => rfl
  | cons character text ih =>
      by_cases same : character = separator
      · subst same
        rw [splitAt_separator, List.length_cons, ih, List.count_cons_self]
      · obtain ⟨first, others, split⟩ :=
          List.exists_cons_of_ne_nil (splitAt_ne_nil separator text)
        rw [split] at ih
        rw [splitAt_cons same split, List.count_cons_of_ne same]
        exact ih

theorem head?_splitAt_eq_nil_iff :
    (splitAt separator text).head? = some [] ↔ [separator] <+: text ++ [separator] := by
  cases text with
  | nil => simp [splitAt]
  | cons character text =>
      by_cases same : character = separator
      · subst same
        simp [splitAt_separator]
      · obtain ⟨first, others, split⟩ :=
          List.exists_cons_of_ne_nil (splitAt_ne_nil separator text)
        simp [splitAt_cons same split, Ne.symm same]

theorem nil_mem_tail_splitAt_iff :
    [] ∈ (splitAt separator text).tail ↔ [separator, separator] <:+: text ++ [separator] := by
  induction text with
  | nil =>
      have short : ¬ [separator, separator] <:+: [separator] := fun inside => by
        simpa using inside.length_le
      simp [splitAt, short]
  | cons character text ih =>
      obtain ⟨first, others, split⟩ :=
        List.exists_cons_of_ne_nil (splitAt_ne_nil separator text)
      have start := @head?_splitAt_eq_nil_iff separator text
      rw [split] at ih start
      rw [List.cons_append, List.infix_cons_iff, ← ih]
      by_cases same : character = separator
      · subst same
        rw [splitAt_separator, split, List.tail_cons, List.prefix_cons_inj, ← start]
        simp [eq_comm]
      · rw [splitAt_cons same split, List.tail_cons, List.tail_cons]
        simp [List.cons_prefix_cons, Ne.symm same]

/-- A piece is empty exactly if two separators stand beside each other, where the text is taken with
a separator at each end. -/
theorem nil_mem_splitAt_iff :
    [] ∈ splitAt separator text ↔
      [separator, separator] <:+: separator :: (text ++ [separator]) := by
  rw [List.infix_cons_iff, List.prefix_cons_inj, ← head?_splitAt_eq_nil_iff,
    ← nil_mem_tail_splitAt_iff]
  obtain ⟨first, others, split⟩ := List.exists_cons_of_ne_nil (splitAt_ne_nil separator text)
  simp [split, eq_comm]

/-! ## Joining -/

theorem join_eq_intercalate (separator : List Char) (pieces : List (List Char)) :
    join separator pieces = separator.intercalate pieces := by
  induction pieces with
  | nil => rfl
  | cons piece pieces ih =>
      cases pieces with
      | nil => simp [join, List.intercalate]
      | cons next pieces => simp [join, ih, List.intercalate]

theorem join_cons (held : pieces ≠ []) :
    join [separator] (piece :: pieces) = piece ++ separator :: join [separator] pieces := by
  cases pieces with
  | nil => exact absurd rfl held
  | cons next pieces => simp [join]

theorem join_splitAt (separator : Char) (text : List Char) :
    join [separator] (splitAt separator text) = text := by
  induction text with
  | nil => rfl
  | cons character text ih =>
      by_cases same : character = separator
      · subst same
        rw [splitAt_separator, join_cons (splitAt_ne_nil _ _), ih]
        rfl
      · obtain ⟨first, others, split⟩ :=
          List.exists_cons_of_ne_nil (splitAt_ne_nil separator text)
        rw [split] at ih
        rw [splitAt_cons same split, ← ih]
        cases others <;> rfl

/-- The pieces of a join are those of each of its parts. -/
theorem splitAt_join_eq_flatMap (held : pieces ≠ []) :
    splitAt separator (join [separator] pieces) = pieces.flatMap (splitAt separator) := by
  induction pieces with
  | nil => exact absurd rfl held
  | cons piece pieces ih =>
      by_cases single : pieces = []
      · subst single
        simp [join]
      · rw [join_cons single, splitAt_append_separator, ih single, List.flatMap_cons]

/-- Parts are their own pieces exactly if none holds the separator. -/
theorem flatMap_splitAt_eq_self_iff :
    pieces.flatMap (splitAt separator) = pieces ↔ ∀ piece ∈ pieces, separator ∉ piece := by
  constructor
  · intro same piece listed
    rw [← same] at listed
    obtain ⟨whole, _, split⟩ := List.mem_flatMap.mp listed
    exact not_mem_splitAt split
  · intro none
    induction pieces with
    | nil => rfl
    | cons piece pieces ih =>
        rw [List.flatMap_cons, splitAt_of_not_mem (none piece List.mem_cons_self),
          ih fun other listed => none other (List.mem_cons_of_mem _ listed)]
        rfl

/-- Pieces without the separator are the pieces of their join. -/
theorem splitAt_join (held : pieces ≠ []) (none : ∀ piece ∈ pieces, separator ∉ piece) :
    splitAt separator (join [separator] pieces) = pieces :=
  (splitAt_join_eq_flatMap held).trans (flatMap_splitAt_eq_self_iff.mpr none)

theorem mem_join (listed : character ∈ join [separator] pieces) :
    character = separator ∨ ∃ piece ∈ pieces, character ∈ piece := by
  induction pieces with
  | nil => cases listed
  | cons piece pieces ih =>
      by_cases single : pieces = []
      · subst single
        exact .inr ⟨piece, List.mem_cons_self, listed⟩
      · rw [join_cons single] at listed
        rcases List.mem_append.mp listed with first | later
        · exact .inr ⟨piece, List.mem_cons_self, first⟩
        · rcases List.mem_cons.mp later with same | behind
          · exact .inl same
          · rcases ih behind with same | ⟨other, listedOther, held⟩
            · exact .inl same
            · exact .inr ⟨other, List.mem_cons_of_mem _ listedOther, held⟩

theorem mem_join_of_mem (listed : piece ∈ pieces) (held : character ∈ piece) :
    character ∈ join [separator] pieces := by
  induction pieces with
  | nil => cases listed
  | cons first pieces ih =>
      by_cases single : pieces = []
      · subst single
        rw [List.mem_singleton.mp listed] at held
        exact held
      · rw [join_cons single]
        rcases List.mem_cons.mp listed with rfl | later
        · exact List.mem_append_left _ held
        · exact List.mem_append_right _ (List.mem_cons_of_mem _ (ih later))

theorem mem_of_mem_splitAt (listed : piece ∈ splitAt separator text) (held : character ∈ piece) :
    character ∈ text :=
  join_splitAt separator text ▸ mem_join_of_mem listed held

end Multitarget.Text
