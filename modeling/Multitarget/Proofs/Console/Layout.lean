import Multitarget.Console.Layout
import Multitarget.Proofs.Text.CellWidth
import Multitarget.Proofs.Text.Lines

/-!
# What the layout leaves as it is

Dividing a line only cuts it, and a line that fits is not cut. So a text comes through the layout
unchanged if it holds neither tabs nor control characters that are dropped and each of its lines
fits the width, and, but for lines that start with a joiner, only then.
-/

namespace Multitarget.Console

variable {line text : List Char} {words : List (List Char)} {character : Char}

/-! ## Words -/

/-- Whether a text ends in a blank, if it holds anything. -/
def EndsBlank (text : List Char) : Prop :=
  ∀ character, text.getLast? = some character → Text.isBlank character = true

/-- Whether blanks stand behind all words but the last. -/
inductive Spaced : List (List Char) → Prop where
  | nil : Spaced []
  | last (word : List Char) : Spaced [word]
  | cons {word : List Char} {words : List (List Char)} (ends : EndsBlank word)
      (others : Spaced words) : Spaced (word :: words)

theorem cutWords_flatten (text : List Char) : (cutWords text).flatten = text := by
  induction text with
  | nil => rfl
  | cons first rest ih =>
      rw [cutWords]
      split
      next empty => rw [empty] at ih; simpa using ih
      next words cut => rw [cut] at ih; simpa using ih
      next second word words cut =>
        rw [cut] at ih
        split <;> simpa using ih

theorem nil_not_mem_cutWords (text : List Char) : [] ∉ cutWords text := by
  induction text with
  | nil => exact List.not_mem_nil
  | cons first rest ih =>
      rw [cutWords]
      split
      next => simp
      next words cut => exact absurd (cut ▸ List.mem_cons_self) ih
      next second word words cut =>
        rw [cut, List.mem_cons, not_or] at ih
        split <;> simp [ih.2]

theorem spaced_cutWords (text : List Char) : Spaced (cutWords text) := by
  induction text with
  | nil => exact .nil
  | cons first rest ih =>
      have noEmpty := nil_not_mem_cutWords rest
      rw [cutWords]
      split
      next => exact .last _
      next words cut => exact absurd (cut ▸ List.mem_cons_self) noEmpty
      next second word words cut =>
        rw [cut] at ih
        split
        next apart =>
          have ends : EndsBlank [first] := by
            rintro _ ⟨⟩
            exact (Bool.and_eq_true_iff.mp apart).1
          exact .cons ends ih
        next =>
          cases ih with
          | last => exact .last _
          | cons ends others =>
              have endsToo : EndsBlank (first :: second :: word) := by
                intro final same
                exact ends final (by simpa using same)
              exact .cons endsToo others

theorem wordsOf_flatten (line : List Char) : (wordsOf line).flatten = line := by
  have cut := cutWords_flatten (line.dropWhile Text.isBlank)
  have parts : line.takeWhile Text.isBlank ++ line.dropWhile Text.isBlank = line :=
    List.takeWhile_append_dropWhile
  simp only [wordsOf]
  split
  next empty =>
    rw [empty] at cut
    rw [← cut, List.flatten_nil, List.append_nil] at parts
    split
    next none => rw [← parts, List.isEmpty_iff.mp none, List.flatten_nil]
    next => rw [List.flatten_singleton, parts]
  next word words cutEq =>
    rw [cutEq] at cut
    rw [List.flatten_cons, List.append_assoc, ← List.flatten_cons, cut, parts]

theorem spaced_wordsOf (line : List Char) : Spaced (wordsOf line) := by
  have spaced := spaced_cutWords (line.dropWhile Text.isBlank)
  have noEmpty := nil_not_mem_cutWords (line.dropWhile Text.isBlank)
  simp only [wordsOf]
  split
  next =>
    split
    · exact .nil
    · exact .last _
  next word words cut =>
    rw [cut] at spaced noEmpty
    cases spaced with
    | last => exact .last _
    | cons ends others =>
        have held : word ≠ [] := fun none => noEmpty (none ▸ List.mem_cons_self)
        have endsToo : EndsBlank (line.takeWhile Text.isBlank ++ word) := by
          intro final same
          rw [List.getLast?_append, List.getLast?_eq_some_getLast held, Option.some_or] at same
          exact ends final (by rwa [List.getLast?_eq_some_getLast held])
        exact .cons endsToo others

/-! ## Dividing a line -/

theorem wordCells_le (word : List Char) : wordCells word ≤ Text.cellsOf word := by
  apply Text.cellsOf_le_of_isPrefix
  have behind := List.dropWhile_suffix Text.isBlank (l := word.reverse)
  rw [← List.reverse_prefix, List.reverse_reverse] at behind
  exact behind

/-- Words that fit a line together stay on it. -/
theorem divideWords_of_fits {used : Nat} (spaced : Spaced words)
    (fits : used + Text.cellsOf words.flatten ≤ lineWidth) :
    divideWords line used words = [line ++ words.flatten] := by
  induction spaced generalizing line used with
  | nil => simp [divideWords]
  | last word =>
      have fitsWord : used + wordCells word ≤ lineWidth := by
        have less := wordCells_le word
        rw [List.flatten_singleton] at fits
        omega
      rw [divideWords, if_pos fitsWord]
      simp [divideWords]
  | @cons word words ends _ ih =>
      have less := wordCells_le word
      have add : Text.cellsOf word + Text.cellsOf words.flatten ≤
          Text.cellsOf (word :: words).flatten :=
        Text.cellsOf_add_le (Text.endsOpen_of_isBlank ends)
      have fitsWord : used + wordCells word ≤ lineWidth := by omega
      rw [divideWords, if_pos fitsWord, ih (by omega)]
      simp

theorem chop_flatten (used : Nat) (clusters : List Text.Cluster) :
    (chop used clusters).1 ++ (chop used clusters).2.flatten =
      clusters.flatMap Text.Cluster.characters := by
  induction clusters generalizing used with
  | nil => rfl
  | cons cluster rest ih =>
      rw [chop]
      split
      · simp [← ih cluster.cells]
      · simp [← ih (used + cluster.cells)]

theorem breakPieces_flatten (piece : List Char) (pieces : List (List Char)) :
    (breakPieces piece pieces).1.flatten ++ (breakPieces piece pieces).2 =
      piece ++ pieces.flatten := by
  induction pieces generalizing piece with
  | nil => simp [breakPieces]
  | cons next rest ih => simp [breakPieces, ← ih next]

theorem divideWords_flatten (line : List Char) (used : Nat) (words : List (List Char)) :
    (divideWords line used words).flatten = line ++ words.flatten := by
  induction words generalizing line used with
  | nil => simp [divideWords]
  | cons word rest ih =>
      rw [divideWords]
      split
      · simp [ih]
      · split
        · have broken := breakPieces_flatten (chop 0 (Text.clusters word)).1
            (chop 0 (Text.clusters word)).2
          rw [chop_flatten, Text.clusters_characters] at broken
          simp only []
          split
          next empty =>
            rw [List.flatten_append, ih, ← List.append_assoc, broken, List.isEmpty_iff.mp empty]
            simp
          next =>
            rw [List.flatten_cons, List.flatten_append, ih, ← List.append_assoc _ _ rest.flatten,
              broken]
            simp
        · split <;> simp [ih]

/-- Dividing a line only cuts it. -/
theorem divide_flatten (line : List Char) : (divide line).flatten = line := by
  rw [divide]
  split
  · simp
  · rw [divideWords_flatten, wordsOf_flatten, List.nil_append]

theorem divideWords_ne_nil (line : List Char) (used : Nat) (words : List (List Char)) :
    divideWords line used words ≠ [] := by
  induction words generalizing line used with
  | nil => simp [divideWords]
  | cons word rest ih =>
      rw [divideWords]
      split
      · exact ih _ _
      · split
        · simp only []
          split <;> simp [ih]
        · split <;> simp [ih]

theorem divide_ne_nil (line : List Char) : divide line ≠ [] := by
  rw [divide]
  split
  · simp
  · exact divideWords_ne_nil _ _ _

/-- A line that takes no more cells than the width is not divided. -/
theorem divide_of_le (fits : Text.cellsOf line ≤ lineWidth) : divide line = [line] := by
  rw [divide]
  split
  · rfl
  · rw [divideWords_of_fits (spaced_wordsOf line) (by rwa [wordsOf_flatten, Nat.zero_add]),
      wordsOf_flatten, List.nil_append]

/-! ## Fitting a line -/

theorem length_crop_le (cells : Nat) (clusters : List Text.Cluster)
    (held : ∀ cluster ∈ clusters, cluster.characters ≠ []) :
    (crop cells clusters).length ≤ (clusters.flatMap Text.Cluster.characters).length := by
  induction clusters generalizing cells with
  | nil => exact Nat.le_refl _
  | cons cluster rest ih =>
      obtain ⟨heldFirst, heldRest⟩ := List.forall_mem_cons.mp held
      have some := List.length_pos_iff.mpr heldFirst
      have others := ih (cells - cluster.cells) heldRest
      rw [crop]
      split
      · exact Nat.zero_le _
      · split
        · simpa using others
        · simp only [List.length_singleton, List.flatMap_cons, List.length_append]
          omega

/-- Clusters that are cropped to what they were fit the cells. -/
theorem clusterCells_le_of_crop {cells : Nat} {clusters : List Text.Cluster}
    (sound : ∀ cluster ∈ clusters,
      cluster.characters ≠ [] ∧ (cluster.characters = [' '] → cluster.cells = 1))
    (same : crop cells clusters = clusters.flatMap Text.Cluster.characters) :
    Text.clusterCells clusters ≤ cells := by
  induction clusters generalizing cells with
  | nil => exact Nat.zero_le _
  | cons cluster rest ih =>
      obtain ⟨⟨held, space⟩, soundRest⟩ := List.forall_mem_cons.mp sound
      rw [crop, List.flatMap_cons] at same
      split at same
      next => exact absurd (List.append_eq_nil_iff.mp same.symm).1 held
      next some =>
        split at same
        next fits =>
          have others := ih soundRest (List.append_cancel_left same)
          rw [Text.clusterCells]
          omega
        next wide =>
          -- a space in place of a cluster can only stand for one that is a space itself
          rcases List.append_eq_singleton_iff.mp same.symm with ⟨none, _⟩ | ⟨single, _⟩
          · exact absurd none held
          · have one := space single
            omega

theorem trimExcess_starts (line : List Char) : trimExcess line <+: line :=
  List.take_prefix _ _

/-- Only blanks at the end that lie beyond the width are dropped. -/
theorem trimExcess_eq_self_iff : trimExcess line = line ↔ line.length ≤ lineWidth ∨
    ∀ character, line.getLast? = some character → Text.isBlank character = false := by
  have noBlanks : (line.reverse.takeWhile Text.isBlank).length = 0 ↔
      ∀ character, line.getLast? = some character → Text.isBlank character = false := by
    rw [← List.head?_reverse, List.length_eq_zero_iff]
    cases line.reverse with
    | nil => simp
    | cons last others => simp [List.takeWhile_cons]
  rw [← noBlanks]
  constructor
  · intro same
    have length := congrArg List.length same
    simp only [trimExcess, List.length_take] at length
    omega
  · intro few
    exact List.take_of_length_le (by omega)

/-- Whether a line fits the width: by its cells, and by its characters if a blank ends it. -/
def Fits (line : List Char) : Prop :=
  Text.cellsOf line ≤ lineWidth ∧ (line.length ≤ lineWidth ∨
    ∀ character, line.getLast? = some character → Text.isBlank character = false)

theorem fit_of_fits (fits : Fits line) : fit line = line := by
  rw [fit, trimExcess_eq_self_iff.mpr fits.2]
  exact if_neg (Nat.not_lt.mpr fits.1)

/-- What fitting leaves as it is fits, but for the cells of a line that starts with a joiner. -/
theorem fits_of_fit (same : fit line = line) (noJoiner : line.head? ≠ some Text.joiner) :
    Fits line := by
  have length := (trimExcess_starts line).length_le
  simp only [fit] at same
  split at same
  next wide =>
    have sound := Text.clusters_sound (trimExcess line)
    have shorter := length_crop_le lineWidth _ fun cluster listed => (sound cluster listed).1
    rw [Text.clusters_characters, same] at shorter
    have whole : trimExcess line = line := (trimExcess_starts line).eq_of_length (by omega)
    rw [whole] at same sound wide
    have cells : Text.clusterCells (Text.clusters line) ≤ lineWidth :=
      clusterCells_le_of_crop sound (by rw [same, Text.clusters_characters])
    rw [Text.clusterCells_clusters noJoiner] at cells
    omega
  next narrow =>
    rw [same] at narrow
    exact ⟨by omega, trimExcess_eq_self_iff.mp same⟩

/-! ## Characters of the layout -/

theorem mem_crop {cells : Nat} {clusters : List Text.Cluster}
    (listed : character ∈ crop cells clusters) :
    character = ' ' ∨ character ∈ clusters.flatMap Text.Cluster.characters := by
  induction clusters generalizing cells with
  | nil => cases listed
  | cons cluster rest ih =>
      rw [crop] at listed
      rw [List.flatMap_cons, List.mem_append]
      split at listed
      · cases listed
      · split at listed
        · rcases List.mem_append.mp listed with first | later
          · exact .inr (.inl first)
          · rcases ih later with space | behind
            · exact .inl space
            · exact .inr (.inr behind)
        · exact .inl (List.mem_singleton.mp listed)

theorem mem_fit (listed : character ∈ fit line) : character = ' ' ∨ character ∈ line := by
  simp only [fit] at listed
  split at listed
  · rcases mem_crop listed with space | held
    · exact .inl space
    · rw [Text.clusters_characters] at held
      exact .inr ((trimExcess_starts line).subset held)
  · exact .inr ((trimExcess_starts line).subset listed)

theorem mem_joinParts {column : Nat} {parts : List (List Char)}
    (listed : character ∈ joinParts column parts) :
    character = ' ' ∨ ∃ part ∈ parts, character ∈ part := by
  induction parts generalizing column with
  | nil => cases listed
  | cons part rest ih =>
      cases rest with
      | nil => exact .inr ⟨part, List.mem_cons_self, listed⟩
      | cons next rest =>
          simp only [joinParts, List.mem_append, List.mem_singleton, List.mem_replicate] at listed
          rcases listed with ((first | space) | ⟨_, space⟩) | later
          · exact .inr ⟨part, List.mem_cons_self, first⟩
          · exact .inl space
          · exact .inl space
          · rcases ih later with space | ⟨other, listedOther, held⟩
            · exact .inl space
            · exact .inr ⟨other, List.mem_cons_of_mem _ listedOther, held⟩

/-- No tab is left where tabs are expanded. -/
theorem mem_expandTabs (listed : character ∈ expandTabs line) :
    character = ' ' ∨ character ∈ line ∧ character ≠ '\t' := by
  rcases mem_joinParts listed with space | ⟨part, listedPart, held⟩
  · exact .inl space
  · refine .inr ⟨Text.mem_of_mem_splitAt listedPart held, ?_⟩
    rintro rfl
    exact Text.not_mem_splitAt listedPart held

theorem expandTabs_eq_self (noTab : '\t' ∉ line) : expandTabs line = line := by
  rw [expandTabs, Text.splitAt_of_not_mem noTab, joinParts]

/-! ## Texts -/

/-- Whether a text holds neither tabs nor characters that are dropped. -/
def IsClean (text : List Char) : Prop :=
  ∀ character ∈ text, isSuppressed character = false ∧ character ≠ '\t'

/-- The lines that a line is divided into, fitted to the width. -/
def rows (line : List Char) : List (List Char) :=
  (divide line).map fit

theorem rows_ne_nil (line : List Char) : rows line ≠ [] := by
  simpa [rows] using divide_ne_nil line

theorem filter_of_isClean (clean : IsClean text) :
    (text.filter fun character => !isSuppressed character) = text := by
  apply List.filter_eq_self.mpr
  intro character listed
  simp [(clean character listed).1]

theorem expandTabs_lines (clean : IsClean text) :
    (Text.lines text).map expandTabs = Text.lines text := by
  have unchanged : ∀ line ∈ Text.lines text, expandTabs line = line := by
    intro line listed
    apply expandTabs_eq_self
    intro held
    exact (clean _ (Text.mem_of_mem_splitAt listed held)).2 rfl
  rw [List.map_congr_left unchanged]
  exact List.map_id' _

/-- A clean text is laid out by its lines. -/
theorem layout_of_isClean (clean : IsClean text) (whole : Bool) :
    layout whole text =
      Text.join ['\n'] (if whole then Text.lines text else (Text.lines text).flatMap rows) := by
  simp only [layout, filter_of_isClean clean, expandTabs_lines clean]
  rfl

/-- A clean text whose lines are not divided comes through the layout unchanged. -/
theorem layout_true (clean : IsClean text) : layout true text = text := by
  rw [layout_of_isClean clean true]
  exact Text.join_splitAt '\n' text

theorem mem_rows {row : List Char} (listed : row ∈ rows line) (held : character ∈ row) :
    character = ' ' ∨ character ∈ line := by
  obtain ⟨piece, listedPiece, rfl⟩ := List.mem_map.mp listed
  rcases mem_fit held with space | heldPiece
  · exact .inl space
  · rw [← divide_flatten line]
    exact .inr (List.mem_flatten.mpr ⟨piece, listedPiece, heldPiece⟩)

theorem isClean_layout (whole : Bool) (text : List Char) : IsClean (layout whole text) := by
  have clean (line : List Char)
      (listed : line ∈ (Text.lines (text.filter fun character => !isSuppressed character)).map
        expandTabs) : IsClean line := by
    obtain ⟨source, listedSource, rfl⟩ := List.mem_map.mp listed
    intro character held
    rcases mem_expandTabs held with rfl | ⟨heldSource, noTab⟩
    · decide
    · have kept := (List.mem_filter.mp (Text.mem_of_mem_splitAt listedSource heldSource)).2
      exact ⟨by simpa using kept, noTab⟩
  intro character held
  rcases Text.mem_join held with rfl | ⟨row, listedRow, heldRow⟩
  · decide
  · cases whole with
    | true => exact clean row listedRow character heldRow
    | false =>
        obtain ⟨line, listedLine, divided⟩ := List.mem_flatMap.mp listedRow
        rcases mem_rows divided heldRow with rfl | heldLine
        · decide
        · exact clean line listedLine character heldLine

theorem rows_of_fits (fits : Fits line) : rows line = [line] := by
  rw [rows, divide_of_le fits.1, List.map_singleton, fit_of_fits fits]

/-- A clean text whose lines fit comes through the layout unchanged. -/
theorem layout_of_fits (clean : IsClean text) (fits : ∀ line ∈ Text.lines text, Fits line) :
    layout false text = text := by
  have whole : (Text.lines text).flatMap rows = Text.lines text := by
    rw [List.flatMap_def, List.map_congr_left fun line listed => rows_of_fits (fits line listed)]
    exact List.flatMap_singleton' _
  rw [layout_of_isClean clean false]
  simp only [whole]
  exact Text.join_splitAt '\n' text

/-- A list is made of itself only by one item for each. -/
theorem singleton_of_flatMap_eq {make : List Char → List (List Char)} {lines : List (List Char)}
    (held : ∀ line, make line ≠ []) (same : lines.flatMap make = lines) :
    ∀ line ∈ lines, make line = [line] := by
  have longer (lines : List (List Char)) : lines.length ≤ (lines.flatMap make).length := by
    induction lines with
    | nil => exact Nat.le_refl _
    | cons line lines ih =>
        have some := List.length_pos_iff.mpr (held line)
        simp only [List.flatMap_cons, List.length_append, List.length_cons]
        omega
  induction lines with
  | nil => exact fun _ listed => absurd listed List.not_mem_nil
  | cons line lines ih =>
      obtain ⟨first, others, made⟩ := List.exists_cons_of_ne_nil (held line)
      rw [List.flatMap_cons, made, List.cons_append, List.cons.injEq] at same
      have length := congrArg List.length same.2
      have none : others = [] := by
        have atLeast := longer lines
        rw [List.length_append] at length
        exact List.length_eq_zero_iff.mp (by omega)
      subst none
      rw [List.nil_append] at same
      intro other listed
      rcases List.mem_cons.mp listed with rfl | later
      · rw [made, same.1]
      · exact ih same.2 other later

/-- The lines of a layout are the rows that the lines of the text are divided into. -/
theorem lines_layout (clean : IsClean text) :
    Text.lines (layout false text) = (Text.lines text).flatMap rows := by
  have noFeed : ∀ row ∈ (Text.lines text).flatMap rows, '\n' ∉ row := by
    intro row listed feed
    obtain ⟨line, listedLine, divided⟩ := List.mem_flatMap.mp listed
    rcases mem_rows divided feed with space | heldLine
    · cases space
    · exact Text.not_mem_splitAt listedLine heldLine
  have some : (Text.lines text).flatMap rows ≠ [] := by
    obtain ⟨line, lines, split⟩ := List.exists_cons_of_ne_nil (Text.splitAt_ne_nil '\n' text)
    rw [Text.lines, split, List.flatMap_cons]
    exact List.append_ne_nil_of_left_ne_nil (rows_ne_nil line) _
  rw [layout_of_isClean clean false]
  exact Text.splitAt_join some noFeed

/-- What comes through the layout unchanged is clean, and none of its lines is divided. -/
theorem rows_of_layout_eq (same : layout false text = text) :
    IsClean text ∧ ∀ line ∈ Text.lines text, rows line = [line] := by
  have clean : IsClean text := same ▸ isClean_layout false text
  refine ⟨clean, singleton_of_flatMap_eq rows_ne_nil ?_⟩
  rw [← lines_layout clean, same]

/-- A line that is not divided fits, but for the cells of one that starts with a joiner. -/
theorem fits_of_rows (same : rows line = [line]) (noJoiner : line.head? ≠ some Text.joiner) :
    Fits line := by
  obtain ⟨piece, divided, fitted⟩ := List.map_eq_singleton_iff.mp same
  have whole := divide_flatten line
  rw [divided, List.flatten_singleton] at whole
  subst whole
  exact fits_of_fit fitted noJoiner

/-- Which texts come through the layout unchanged. -/
theorem layout_eq_self_iff
    (noJoiner : ∀ line ∈ Text.lines text, line.head? ≠ some Text.joiner) :
    layout false text = text ↔ IsClean text ∧ ∀ line ∈ Text.lines text, Fits line := by
  constructor
  · intro same
    obtain ⟨clean, whole⟩ := rows_of_layout_eq same
    exact ⟨clean, fun line listed => fits_of_rows (whole line listed) (noJoiner line listed)⟩
  · rintro ⟨clean, fits⟩
    exact layout_of_fits clean fits

end Multitarget.Console
