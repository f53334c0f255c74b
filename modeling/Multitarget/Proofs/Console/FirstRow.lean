import Multitarget.Proofs.Console.Layout

/-!
# What a layout starts with

Dividing and fitting drop blanks at the end of a row only, and never break a line before its first
cluster. So a text that starts with a character that is neither blank nor dropped is laid out as a
text that starts with it.
-/

namespace Multitarget.Console

variable {line text word : List Char} {words : List (List Char)} {character : Char}

/-! ## Words -/

theorem cutWords_cons (character : Char) (rest : List Char) :
    ∃ word words, cutWords (character :: rest) = (character :: word) :: words := by
  rw [cutWords]
  split
  · exact ⟨_, _, rfl⟩
  · exact ⟨_, _, rfl⟩
  · split
    · exact ⟨_, _, rfl⟩
    · exact ⟨_, _, rfl⟩

theorem wordsOf_cons (shown : Text.isBlank character = false) (rest : List Char) :
    ∃ word words, wordsOf (character :: rest) = (character :: word) :: words := by
  obtain ⟨word, words, cut⟩ := cutWords_cons character rest
  refine ⟨word, words, ?_⟩
  simp only [wordsOf, List.takeWhile_cons, List.dropWhile_cons, shown, Bool.false_eq_true, if_false,
    cut, List.nil_append]

/-! ## Rows -/

/-- What stands on a line stays at its start. -/
theorem divideWords_starts (held : line ≠ []) (used : Nat) (words : List (List Char)) :
    ∃ more rows, divideWords line used words = (line ++ more) :: rows := by
  induction words generalizing line used with
  | nil => exact ⟨[], [], by rw [divideWords, List.append_nil]⟩
  | cons word rest ih =>
      have further (used : Nat) :
          ∃ more rows, divideWords (line ++ word) used rest = (line ++ more) :: rows := by
        obtain ⟨more, rows, divided⟩ := ih (List.append_ne_nil_of_left_ne_nil held word) used
        exact ⟨word ++ more, rows, by rw [divided, List.append_assoc]⟩
      have some : line.isEmpty = false := by simpa using held
      rw [divideWords]
      split
      · exact further _
      · split
        · simp only [some, Bool.false_eq_true, if_false]
          exact ⟨[], _, by rw [List.append_nil]⟩
        · split
          · exact ⟨[], _, by rw [List.append_nil]⟩
          · exact further _

/-- The first piece of a word that is cut starts with its first cluster. -/
theorem chop_starts {cluster : Text.Cluster} (fits : cluster.cells ≤ lineWidth)
    (others : List Text.Cluster) :
    ∃ piece pieces, chop 0 (cluster :: others) = (cluster.characters ++ piece, pieces) := by
  refine ⟨(chop (0 + cluster.cells) others).1, (chop (0 + cluster.cells) others).2, ?_⟩
  rw [chop, if_neg (by omega)]

theorem breakPieces_starts (piece : List Char) (pieces : List (List Char)) :
    breakPieces piece pieces = ([], piece) ∨
      ∃ lines last, breakPieces piece pieces = (piece :: lines, last) := by
  cases pieces with
  | nil => exact .inl rfl
  | cons next rest => exact .inr ⟨_, _, rfl⟩

/-- The first cluster of a text starts with its first character, and fits a line. -/
theorem clusters_cons (character : Char) (rest : List Char) :
    ∃ behind cells others, cells ≤ lineWidth ∧
      Text.clusters (character :: rest) = ⟨character :: behind, cells⟩ :: others := by
  have whole := Text.clusters_characters (character :: rest)
  have sound := Text.clusters_sound (character :: rest)
  have narrow := Text.clusters_cells_le (character :: rest)
  cases split : Text.clusters (character :: rest) with
  | nil =>
      rw [split] at whole
      cases whole
  | cons cluster others =>
      rw [split] at whole sound narrow
      obtain ⟨characters, cells⟩ := cluster
      have three : cells ≤ 3 := narrow _ List.mem_cons_self
      obtain ⟨first, behind, rfl⟩ :=
        List.exists_cons_of_ne_nil (sound _ List.mem_cons_self).1
      obtain rfl : first = character := (List.cons.inj whole).1
      exact ⟨behind, cells, others, Nat.le_trans three (by decide), rfl⟩

/-- The first row of words starts with the first character of the first word. -/
theorem divideWords_cons (character : Char) (word : List Char) (words : List (List Char)) :
    ∃ more rows, divideWords [] 0 ((character :: word) :: words) = (character :: more) :: rows := by
  have onLine (used : Nat) : ∃ more rows,
      divideWords (character :: word) used words = (character :: more) :: rows := by
    obtain ⟨more, rows, divided⟩ := divideWords_starts (List.cons_ne_nil character word) used words
    exact ⟨word ++ more, rows, divided⟩
  rw [divideWords]
  split
  · exact onLine _
  · split
    · obtain ⟨behind, cells, others, fits, clusters⟩ := clusters_cons character word
      obtain ⟨piece, pieces, chopped⟩ := @chop_starts ⟨character :: behind, cells⟩ fits others
      simp only [clusters, chopped, List.isEmpty_nil, if_true]
      rcases breakPieces_starts (character :: behind ++ piece) pieces with
        broken | ⟨lines, last, broken⟩
      · simp only [broken, List.nil_append]
        obtain ⟨more, rows, divided⟩ :=
          divideWords_starts (List.cons_ne_nil character (behind ++ piece)) _ words
        exact ⟨behind ++ piece ++ more, rows, divided⟩
      · simp only [broken]
        exact ⟨behind ++ piece, _, rfl⟩
    · split
      next further => exact absurd rfl further.1
      next => exact onLine _

theorem divide_cons (shown : Text.isBlank character = false) (rest : List Char) :
    ∃ more rows, divide (character :: rest) = (character :: more) :: rows := by
  obtain ⟨word, words, split⟩ := wordsOf_cons shown rest
  have noBlanks : (character :: rest).all Text.isBlank = false := by simp [shown]
  rw [divide, if_neg (by simp [noBlanks]), split]
  exact divideWords_cons character word words

theorem trimExcess_cons (character : Char) (rest : List Char) :
    ∃ more, trimExcess (character :: rest) = character :: more := by
  have width : 0 < lineWidth := by decide
  have some : ∃ count, (character :: rest).length -
      min ((character :: rest).reverse.takeWhile Text.isBlank).length
        ((character :: rest).length - lineWidth) = count + 1 := by
    apply Nat.exists_eq_succ_of_ne_zero
    rw [List.length_cons]
    omega
  obtain ⟨count, length⟩ := some
  refine ⟨rest.take count, ?_⟩
  simp only [trimExcess, length, List.take_succ_cons]

theorem fit_cons (character : Char) (rest : List Char) :
    ∃ more, fit (character :: rest) = character :: more := by
  obtain ⟨more, trimmed⟩ := trimExcess_cons character rest
  simp only [fit, trimmed]
  split
  · obtain ⟨behind, cells, others, fits, clusters⟩ := clusters_cons character more
    refine ⟨behind ++ crop (lineWidth - cells) others, ?_⟩
    rw [clusters, crop, if_neg (by decide), if_pos fits]
    rfl
  · exact ⟨more, rfl⟩

theorem rows_cons (shown : Text.isBlank character = false) (rest : List Char) :
    ∃ more others, rows (character :: rest) = (character :: more) :: others := by
  obtain ⟨row, others, divided⟩ := divide_cons shown rest
  obtain ⟨more, fitted⟩ := fit_cons character row
  exact ⟨more, others.map fit, by rw [rows, divided, List.map_cons, fitted]⟩

/-! ## Layouts -/

theorem expandTabs_cons (noTab : character ≠ '\t') (rest : List Char) :
    ∃ more, expandTabs (character :: rest) = character :: more := by
  obtain ⟨part, parts, split⟩ := List.exists_cons_of_ne_nil (Text.splitAt_ne_nil '\t' rest)
  rw [expandTabs, Text.splitAt_cons noTab split]
  cases parts with
  | nil => exact ⟨part, rfl⟩
  | cons next parts => exact ⟨_, rfl⟩

theorem join_starts (line : List Char) (lines : List (List Char)) :
    ∃ more, Text.join ['\n'] ((character :: line) :: lines) = character :: more := by
  cases lines with
  | nil => exact ⟨line, rfl⟩
  | cons next lines => exact ⟨_, rfl⟩

/-- A text that starts with a character that is shown is laid out as one that starts with it. -/
theorem layout_cons (shown : Text.isBlank character = false)
    (kept : isSuppressed character = false) (whole : Bool) (text : List Char) :
    ∃ more, layout whole (character :: text) = character :: more := by
  have other {blank : Char} (isBlank : Text.isBlank blank = true) : character ≠ blank := by
    rintro rfl
    rw [shown] at isBlank
    cases isBlank
  have filtered : (character :: text).filter (fun other => !isSuppressed other) =
      character :: text.filter fun other => !isSuppressed other := by
    simp [kept]
  obtain ⟨line, lines, split⟩ := List.exists_cons_of_ne_nil
    (Text.splitAt_ne_nil '\n' (text.filter fun other => !isSuppressed other))
  have split := Text.splitAt_cons (other (by decide : Text.isBlank '\n' = true)) split
  obtain ⟨more, expanded⟩ := expandTabs_cons (other (by decide : Text.isBlank '\t' = true)) line
  simp only [layout, filtered, Text.lines, split, List.map_cons, expanded, List.flatMap_cons]
  cases whole with
  | true => exact join_starts more _
  | false =>
      obtain ⟨row, others, divided⟩ := rows_cons shown more
      rw [rows] at divided
      simp only [divided, Bool.false_eq_true, if_false, List.cons_append]
      exact join_starts row _

end Multitarget.Console
