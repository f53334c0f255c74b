import Multitarget.Text.Blank
import Multitarget.Text.CellWidth

/-!
# Cells of parts

The parts of a text take no more cells than the text, as long as it is cut behind blanks. The
clusters of a text are the text, and take its cells unless it starts with a joiner.
-/

namespace Multitarget.Text

variable {last other : Option Char} {joined : Bool} {text first second : List Char}

/-! ## Cells -/

theorem cellsFrom_nil (last : Option Char) (joined : Bool) : cellsFrom last joined [] = 0 := rfl

theorem cellsFrom_cons (last : Option Char) (joined : Bool) (character : Char) (rest : List Char) :
    cellsFrom last joined (character :: rest) =
      if joined then cellsFrom last false rest
      else if character = joiner then cellsFrom last true rest
      else if character = emojiSelector then selectorCells last + cellsFrom none false rest
      else if cellWidth character = 0 then cellsFrom last false rest
      else cellWidth character + cellsFrom (some character) false rest := by
  simp only [cellsFrom]
  repeat' split
  all_goals simp_all

/-- Only a selector asks for the character before it. -/
theorem cellsFrom_le (wider : selectorCells last ≤ selectorCells other) :
    cellsFrom last joined text ≤ cellsFrom other joined text := by
  induction text generalizing last other joined with
  | nil => exact Nat.le_refl _
  | cons character rest ih =>
      rw [cellsFrom_cons, cellsFrom_cons]
      split
      · exact ih wider
      · split
        · exact ih wider
        · split
          · exact Nat.add_le_add_right wider _
          · split
            · exact ih wider
            · exact Nat.le_refl _

theorem cellsFrom_none_le : cellsFrom none joined text ≤ cellsFrom last joined text :=
  cellsFrom_le (Nat.zero_le _)

theorem cellsFrom_append_le :
    cellsFrom last joined first ≤ cellsFrom last joined (first ++ second) := by
  induction first generalizing last joined with
  | nil => exact Nat.zero_le _
  | cons character rest ih =>
      rw [List.cons_append, cellsFrom_cons, cellsFrom_cons]
      split
      · exact ih
      · split
        · exact ih
        · split
          · exact Nat.add_le_add_left ih _
          · split
            · exact ih
            · exact Nat.add_le_add_left ih _

/-- The start of a text takes no more cells than the text. -/
theorem cellsOf_append_le : cellsOf first ≤ cellsOf (first ++ second) :=
  cellsFrom_append_le

theorem cellsOf_le_of_isPrefix (starts : first <+: text) : cellsOf first ≤ cellsOf text := by
  obtain ⟨second, rfl⟩ := starts
  exact cellsOf_append_le

/-- Whether a text ends in no joiner, so that what follows it is not joined to it. -/
def EndsOpen (text : List Char) : Prop :=
  ∀ character, text.getLast? = some character → character ≠ joiner

/-- The cells of two texts together, if the first one ends in no joiner. -/
theorem cellsFrom_add_le (ends : EndsOpen first) (held : first = [] → joined = false) :
    cellsFrom last joined first + cellsOf second ≤ cellsFrom last joined (first ++ second) := by
  induction first generalizing last joined with
  | nil =>
      rw [held rfl]
      rw [cellsFrom_nil, Nat.zero_add]
      exact cellsFrom_none_le
  | cons character rest ih =>
      have endsRest : EndsOpen rest := by
        intro final same
        exact ends final (by rw [List.getLast?_cons, same]; rfl)
      have add {last : Option Char} {joined : Bool} (open' : rest = [] → joined = false) :=
        @ih last joined endsRest open'
      rw [List.cons_append, cellsFrom_cons, cellsFrom_cons]
      split
      · exact add fun _ => rfl
      · split
        next isJoiner =>
          apply add
          rintro rfl
          exact absurd isJoiner (ends character rfl)
        · split
          · rw [Nat.add_assoc]
            exact Nat.add_le_add_left (add fun _ => rfl) _
          · split
            · exact add fun _ => rfl
            · rw [Nat.add_assoc]
              exact Nat.add_le_add_left (add fun _ => rfl) _

theorem cellsOf_add_le (ends : EndsOpen first) :
    cellsOf first + cellsOf second ≤ cellsOf (first ++ second) :=
  cellsFrom_add_le ends fun _ => rfl

theorem endsOpen_of_isBlank (blank : ∀ character, first.getLast? = some character →
    isBlank character = true) : EndsOpen first := by
  intro character final
  have isBlank := blank character final
  rintro rfl
  revert isBlank
  decide

/-! ## Clusters -/

variable {done : List Cluster}

/-- A character by itself. -/
def Cluster.single (character : Char) : Cluster :=
  ⟨[character], if character = joiner ∨ character = emojiSelector then 0 else cellWidth character⟩

theorem clustersFrom_nil (done : List Cluster) (last : Option Char) (joined : Bool) :
    clustersFrom done last joined [] = done.reverse := rfl

theorem clustersFrom_first (last : Option Char) (joined : Bool) (character : Char)
    (rest : List Char) :
    clustersFrom [] last joined (character :: rest) = clustersFrom [.single character]
      (if (Cluster.single character).cells = 0 then last else some character) false rest := by
  simp only [clustersFrom]
  split
  next zero =>
    have single : Cluster.single character = ⟨[character], 0⟩ := by rw [Cluster.single, zero]
    rw [single]
    rfl
  next nonzero =>
    have single : (Cluster.single character).cells ≠ 0 := nonzero
    rw [if_neg single]
    rfl
  next impossible => cases impossible

theorem clustersFrom_further (cluster : Cluster) (others : List Cluster) (last : Option Char)
    (joined : Bool) (character : Char) (rest : List Char) :
    clustersFrom (cluster :: others) last joined (character :: rest) =
      if joined then clustersFrom (cluster.join character 0 :: others) last false rest
      else if character = joiner then
        clustersFrom (cluster.join character 0 :: others) last true rest
      else if character = emojiSelector then
        clustersFrom (cluster.join character (selectorCells last) :: others)
          (if selectorCells last = 0 then last else none) false rest
      else if cellWidth character = 0 then
        clustersFrom (cluster.join character 0 :: others) last false rest
      else clustersFrom (.single character :: cluster :: others) (some character) false rest := by
  simp only [clustersFrom, Cluster.single]
  repeat' split
  all_goals simp_all

/-- What holds of each character by itself, and still of a cluster that a character joins, holds of
all clusters. -/
theorem clustersFrom_induction {motive : Cluster → Prop}
    (single : ∀ character, motive (.single character))
    (join : ∀ cluster character cells, motive cluster → motive (cluster.join character cells))
    (before : ∀ cluster ∈ done, motive cluster) :
    ∀ cluster ∈ clustersFrom done last joined text, motive cluster := by
  induction text generalizing done last joined with
  | nil => simpa [clustersFrom_nil] using before
  | cons character rest ih =>
      cases done with
      | nil =>
          rw [clustersFrom_first]
          exact ih (by simpa using single character)
      | cons cluster others =>
          have held := before cluster List.mem_cons_self
          have heldOthers : ∀ other ∈ others, motive other :=
            fun other listed => before other (List.mem_cons_of_mem _ listed)
          rw [clustersFrom_further]
          have joins (cells : Nat) :=
            List.forall_mem_cons.mpr ⟨join cluster character cells held, heldOthers⟩
          have starts := List.forall_mem_cons.mpr ⟨single character, before⟩
          repeat' split
          all_goals first | exact ih (joins _) | exact ih starts

theorem clustersFrom_characters :
    (clustersFrom done last joined text).flatMap Cluster.characters =
      done.reverse.flatMap Cluster.characters ++ text := by
  induction text generalizing done last joined with
  | nil => simp [clustersFrom_nil]
  | cons character rest ih =>
      cases done with
      | nil =>
          rw [clustersFrom_first, ih]
          rfl
      | cons cluster others =>
          rw [clustersFrom_further]
          repeat' split
          all_goals
            rw [ih]
            simp [Cluster.join, Cluster.single]

/-- The clusters of a text are the text. -/
theorem clusters_characters (text : List Char) :
    (clusters text).flatMap Cluster.characters = text := by
  rw [clusters, clustersFrom_characters]
  rfl

/-- No cluster is empty, and a space that nothing joins takes one cell. -/
theorem clusters_sound (text : List Char) : ∀ cluster ∈ clusters text,
    cluster.characters ≠ [] ∧ (cluster.characters = [' '] → cluster.cells = 1) := by
  apply clustersFrom_induction
  · intro character
    refine ⟨List.cons_ne_nil _ _, ?_⟩
    rintro ⟨⟩
    decide
  · intro cluster character cells held
    refine ⟨by simp [Cluster.join], ?_⟩
    intro single
    simp only [Cluster.join, List.append_eq_singleton_iff] at single
    rcases single with ⟨none, _⟩ | ⟨_, impossible⟩
    · exact absurd none held.1
    · cases impossible
  · simp

theorem cellWidth_le (character : Char) : cellWidth character ≤ 2 := by
  rw [cellWidth]
  repeat' split
  all_goals decide

theorem selectorCells_le (last : Option Char) : selectorCells last ≤ 1 := by
  cases last with
  | none => exact Nat.zero_le 1
  | some character =>
      rw [selectorCells]
      split
      · exact Nat.le_refl 1
      · exact Nat.zero_le 1

theorem Cluster.cells_single_le (character : Char) : (single character).cells ≤ 2 := by
  have narrow := cellWidth_le character
  rw [single]
  dsimp only
  split
  · exact Nat.zero_le 2
  · exact narrow

theorem clustersFrom_cells_le {cluster : Cluster} (narrow : cluster.cells + selectorCells last ≤ 3)
    (others : ∀ other ∈ done, other.cells ≤ 3) :
    ∀ other ∈ clustersFrom (cluster :: done) last joined text, other.cells ≤ 3 := by
  induction text generalizing cluster done last joined with
  | nil =>
      intro other listed
      rw [clustersFrom_nil, List.mem_reverse] at listed
      rcases List.mem_cons.mp listed with rfl | before
      · omega
      · exact others other before
  | cons character rest ih =>
      rw [clustersFrom_further]
      split
      · exact ih narrow others
      · split
        · exact ih narrow others
        · split
          · -- a selector widens the cluster once: what it adds is not there to be added again
            apply ih _ others
            rw [Cluster.join]
            dsimp only
            split
            · omega
            · exact narrow
          · split
            · exact ih narrow others
            · have one := selectorCells_le (some character)
              have two := Cluster.cells_single_le character
              have before : cluster.cells ≤ 3 := by omega
              exact ih (by omega) (List.forall_mem_cons.mpr ⟨before, others⟩)

/-- A cluster takes three cells at most. -/
theorem clusters_cells_le (text : List Char) : ∀ cluster ∈ clusters text, cluster.cells ≤ 3 := by
  cases text with
  | nil => exact fun cluster listed => absurd listed List.not_mem_nil
  | cons character rest =>
      rw [clusters, clustersFrom_first]
      apply clustersFrom_cells_le
      · have one := selectorCells_le
          (if (Cluster.single character).cells = 0 then none else some character)
        have two := Cluster.cells_single_le character
        omega
      · exact fun other listed => absurd listed List.not_mem_nil

/-- The cells of clusters together. -/
def clusterCells : List Cluster → Nat
  | [] => 0
  | cluster :: rest => cluster.cells + clusterCells rest

theorem clusterCells_append (before behind : List Cluster) :
    clusterCells (before ++ behind) = clusterCells before + clusterCells behind := by
  induction before with
  | nil => simp [clusterCells]
  | cons cluster rest ih => simp [clusterCells, ih, Nat.add_assoc]

theorem clusterCells_reverse (clusters : List Cluster) :
    clusterCells clusters.reverse = clusterCells clusters := by
  induction clusters with
  | nil => rfl
  | cons cluster rest ih => simp [clusterCells, clusterCells_append, ih, Nat.add_comm]

/-- Once a text has a first cluster, its clusters take the cells that it takes. -/
theorem clusterCells_further {cluster : Cluster}
    (same : selectorCells last = selectorCells other) :
    clusterCells (clustersFrom (cluster :: done) last joined text) =
      clusterCells (cluster :: done) + cellsFrom other joined text := by
  induction text generalizing cluster done last other joined with
  | nil => rw [clustersFrom_nil, clusterCells_reverse, cellsFrom_nil, Nat.add_zero]
  | cons character rest ih =>
      rw [clustersFrom_further, cellsFrom_cons]
      split
      · rw [ih same]
        simp [clusterCells, Cluster.join]
      · split
        · rw [ih same]
          simp [clusterCells, Cluster.join]
        · split
          · have behind : selectorCells (if selectorCells last = 0 then last else none) =
                selectorCells none := by
              split
              next zero => exact zero
              next => rfl
            rw [ih behind, same]
            simp only [clusterCells, Cluster.join]
            omega
          · split
            next =>
              rw [ih same]
              simp [clusterCells, Cluster.join]
            next =>
              have single : (Cluster.single character).cells = cellWidth character :=
                if_neg (not_or.mpr ⟨‹_›, ‹_›⟩)
              rw [ih rfl]
              simp only [clusterCells, single]
              omega

/-- The clusters of a text that does not start with a joiner take the cells that it takes. -/
theorem clusterCells_clusters (noJoiner : text.head? ≠ some joiner) :
    clusterCells (clusters text) = cellsOf text := by
  cases text with
  | nil => rfl
  | cons character rest =>
      have other : character ≠ joiner := by simpa using noJoiner
      rw [clusters, clustersFrom_first, clusterCells_further rfl, cellsOf, cellsFrom_cons]
      by_cases selector : character = emojiSelector
      · subst selector
        simp [clusterCells, Cluster.single, other, selectorCells]
      · by_cases zero : cellWidth character = 0 <;>
          simp [clusterCells, Cluster.single, other, selector, zero]

end Multitarget.Text
