import Multitarget.Proofs.Console.Layout

/-!
# What the layout keeps

A visible character comes through the layout, unless its line is cropped. What is left of a
cropped line fills the width, and a character fills at most three cells of it, so such a line is
at least a third as long as it is wide.
-/

namespace Multitarget.Console

variable {line text : List Char} {character : Char}

/-! ## Lines -/

theorem mem_joinParts_of_mem {column : Nat} {parts : List (List Char)} {part : List Char}
    (listed : part ∈ parts) (held : character ∈ part) : character ∈ joinParts column parts := by
  induction parts generalizing column with
  | nil => cases listed
  | cons first rest ih =>
      cases rest with
      | nil =>
          rw [List.mem_singleton] at listed
          exact listed ▸ held
      | cons next others =>
          simp only [joinParts, List.mem_append]
          rcases List.mem_cons.mp listed with rfl | later
          · exact .inl (.inl (.inl held))
          · exact .inr (ih later)

theorem mem_expandTabs_of_mem (held : character ∈ line) (noTab : character ≠ '\t') :
    character ∈ expandTabs line := by
  rw [← Text.join_splitAt '\t' line] at held
  rcases Text.mem_join held with tab | ⟨part, listed, inside⟩
  · exact absurd tab noTab
  · exact mem_joinParts_of_mem listed inside

/-- Only blanks are dropped at the end of a line. -/
theorem mem_trimExcess_of_mem (held : character ∈ line)
    (visible : Text.isBlank character = false) : character ∈ trimExcess line := by
  rw [trimExcess]
  generalize kept : line.length - min (line.reverse.takeWhile Text.isBlank).length
    (line.length - lineWidth) = count
  rw [← List.take_append_drop count line, List.mem_append] at held
  refine held.resolve_right fun dropped => ?_
  -- What is dropped stands, in reverse, at the start of the blanks that end the line.
  have starts : (line.drop count).reverse <+: line.reverse.takeWhile Text.isBlank := by
    refine List.prefix_of_prefix_length_le ?_ (List.takeWhile_prefix _) ?_
    · exact ⟨(line.take count).reverse, by rw [← List.reverse_append, List.take_append_drop]⟩
    · rw [List.length_reverse, List.length_drop]
      omega
  have blanks : (line.reverse.takeWhile Text.isBlank).all Text.isBlank = true := List.all_takeWhile
  have blank := List.all_eq_true.mp blanks character
    (starts.subset (List.mem_reverse.mpr dropped))
  rw [visible] at blank
  cases blank

/-- A character of some clusters is left, or what is left of them has at least a third of the
cells. -/
theorem mem_crop_of_mem {cells : Nat} {clusters : List Text.Cluster}
    (sound : ∀ cluster ∈ clusters, cluster.characters ≠ [] ∧ cluster.cells ≤ 3)
    (held : character ∈ clusters.flatMap Text.Cluster.characters) :
    character ∈ crop cells clusters ∨ cells ≤ 3 * (crop cells clusters).length := by
  induction clusters generalizing cells with
  | nil => cases held
  | cons cluster rest ih =>
      obtain ⟨⟨some, narrow⟩, soundRest⟩ := List.forall_mem_cons.mp sound
      have one := List.length_pos_iff.mpr some
      rw [List.flatMap_cons, List.mem_append] at held
      rw [crop]
      split
      next none => exact .inr (none ▸ Nat.zero_le _)
      next left =>
        split
        next fits =>
          rcases held with first | later
          · exact .inl (List.mem_append_left _ first)
          · rcases ih soundRest later with kept | long
            · exact .inl (List.mem_append_right _ kept)
            · right
              rw [List.length_append]
              omega
        next wide =>
          right
          rw [List.length_singleton]
          omega

theorem mem_fit_of_mem (held : character ∈ line) (visible : Text.isBlank character = false) :
    character ∈ fit line ∨ lineWidth ≤ 3 * (fit line).length := by
  have trimmed := mem_trimExcess_of_mem held visible
  simp only [fit]
  split
  · have sound (cluster : Text.Cluster) (listed : cluster ∈ Text.clusters (trimExcess line)) :
        cluster.characters ≠ [] ∧ cluster.cells ≤ 3 :=
      ⟨(Text.clusters_sound _ cluster listed).1, Text.clusters_cells_le _ cluster listed⟩
    rw [← Text.clusters_characters (trimExcess line)] at trimmed
    exact mem_crop_of_mem sound trimmed
  · exact .inl trimmed

/-! ## Texts -/

theorem exists_row_of_mem (held : character ∈ line) (visible : Text.isBlank character = false) :
    ∃ row ∈ rows line, character ∈ row ∨ lineWidth ≤ 3 * row.length := by
  rw [← divide_flatten line] at held
  obtain ⟨piece, listed, inside⟩ := List.mem_flatten.mp held
  exact ⟨fit piece, List.mem_map_of_mem listed, mem_fit_of_mem inside visible⟩

theorem length_le_join {separator : Char} {piece : List Char} {pieces : List (List Char)}
    (listed : piece ∈ pieces) : piece.length ≤ (Text.join [separator] pieces).length := by
  induction pieces with
  | nil => cases listed
  | cons first pieces ih =>
      by_cases single : pieces = []
      · subst single
        rw [List.mem_singleton] at listed
        simp [listed, Text.join]
      · rw [Text.join_cons single, List.length_append, List.length_cons]
        rcases List.mem_cons.mp listed with rfl | later
        · exact Nat.le_add_right _ _
        · have shorter := ih later
          omega

/-- A visible character of a text is in its layout, unless the layout is at least a third as long
as a line is wide. -/
theorem mem_layout_of_mem (held : character ∈ text) (shown : isSuppressed character = false)
    (visible : Text.isBlank character = false) :
    character ∈ layout false text ∨ lineWidth ≤ 3 * (layout false text).length := by
  have noFeed : character ≠ '\n' := by
    rintro rfl
    cases visible
  have noTab : character ≠ '\t' := by
    rintro rfl
    cases visible
  have kept : character ∈ text.filter fun other => !isSuppressed other :=
    List.mem_filter.mpr ⟨held, by rw [shown]; rfl⟩
  rw [← Text.join_splitAt '\n' (text.filter _)] at kept
  rcases Text.mem_join kept with feed | ⟨line, listed, inside⟩
  · exact absurd feed noFeed
  obtain ⟨row, made, holds⟩ := exists_row_of_mem (mem_expandTabs_of_mem inside noTab) visible
  have among : row ∈ ((Text.lines (text.filter fun other => !isSuppressed other)).map
      expandTabs).flatMap rows :=
    List.mem_flatMap.mpr ⟨expandTabs line, List.mem_map_of_mem listed, made⟩
  rcases holds with present | long
  · exact .inl (Text.mem_join_of_mem among present)
  · right
    have shorter := @length_le_join '\n' _ _ among
    exact Nat.le_trans long (Nat.mul_le_mul_left 3 shorter)

end Multitarget.Console
