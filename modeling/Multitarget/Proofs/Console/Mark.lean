import Multitarget.Console.Output
import Multitarget.Proofs.Console.Markup

/-!
# Marked lines

The markup of a mark is read as a sign and a space, so that a line behind it is shown whenever the
line by itself is read as text. This holds of every escaped text.
-/

namespace Multitarget.Console

/-- The sign of a mark. -/
def Mark.sign : Mark → Char
  | .success => '✓'
  | .failure => '✗'
  | .warning => '⚠'

/-- The colour of a mark. -/
def Mark.color : Mark → List Char
  | .success => "green".toList
  | .failure => "red".toList
  | .warning => "yellow".toList

theorem Mark.markup_eq (mark : Mark) : mark.markup =
    '[' :: (mark.color ++ ']' :: mark.sign :: '[' :: ('/' :: mark.color ++ [']', ' '])) := by
  cases mark <;> rfl

/-- The tag of a mark. -/
def Mark.opened (mark : Mark) : Markup.Opened :=
  ⟨String.ofList mark.color, none, 0⟩

namespace Markup

variable {text markup : List Char}

theorem isTag_color (mark : Mark) : IsTag mark.color ∧ IsTag ('/' :: mark.color) := by
  cases mark <;> exact ⟨⟨⟨_, _, rfl, rfl⟩, by decide⟩, ⟨_, _, rfl, rfl⟩, by decide⟩

theorem normalName_color (mark : Mark) :
    normalName mark.color = .ok (String.ofList mark.color) := by
  cases mark <;> rfl

theorem exists_read_color (mark : Mark) :
    ∃ style, Style.read (String.ofList mark.color) = .ok style := by
  cases mark <;> exact ⟨_, rfl⟩

theorem afterTag_color (mark : Mark) :
    afterTag 0 0 mark.color [] = .ok ([mark.opened], []) := by
  have name : divideTag mark.color = (mark.color, none) := by cases mark <;> decide
  have opens : ∀ name, mark.color ≠ '/' :: name := by cases mark <;> rintro _ ⟨⟩
  rw [afterTag, name]
  split
  next same => exact absurd (Prod.mk.inj same).1 (opens _)
  next same =>
    obtain ⟨rfl, rfl⟩ := Prod.mk.inj same
    rw [normalName_color]
    rfl

theorem afterTag_close (mark : Mark) (position : Nat) :
    afterTag 1 position ('/' :: mark.color) [mark.opened] =
      .ok ([], [mark.opened.span 1]) := by
  have name : divideTag ('/' :: mark.color) = ('/' :: mark.color, none) := by
    cases mark <;> decide
  have trimmed : Text.trimWhile Text.isBlank mark.color = mark.color := by cases mark <;> decide
  have named : mark.color.isEmpty = false := by cases mark <;> rfl
  have noHandler : mark.opened.name.startsWith "@" = false := by
    cases mark <;> decide +kernel
  have found : closed position ('/' :: mark.color) mark.color [mark.opened] =
      .ok (mark.opened, []) := by
    simp [closed, trimmed, named, normalName_color, bind, Except.bind, Mark.opened]
  have ended : mark.opened.close 1 = .ok [mark.opened.span 1] := by
    rw [Opened.close, noHandler]
    rfl
  rw [afterTag, name]
  simp only [found, ended, bind, Except.bind, pure, Except.pure]

/-- A tag that is not escaped. -/
theorem pieces_tag {inside : List Char} (position : Nat) (isTag : IsTag inside)
    (rest : List Char) :
    pieces position 0 0 ('[' :: (inside ++ ']' :: rest)) =
      .text [] :: .tag position inside ::
        pieces (position + 1 + (inside.length + 1)) 0 0 rest := by
  have whole := pieces_skip (position + 1) (inside ++ [']']) rest
  simp only [List.length_append, List.length_singleton, List.append_assoc,
    List.singleton_append] at whole
  simp [pieces, tagInside?_append isTag, whole]

/-- The pieces of a mark are those of its tags around its sign. -/
theorem pieces_mark (mark : Mark) (markup : List Char) :
    ∃ closing behind, pieces 0 0 0 (mark.markup ++ markup) =
      .text [] :: .tag 0 mark.color :: .text [mark.sign] :: .text [] ::
        .tag closing ('/' :: mark.color) :: .text [' '] :: pieces behind 0 0 markup := by
  obtain ⟨isTag, isClosing⟩ := isTag_color mark
  have sign : mark.sign ≠ '\\' ∧ mark.sign ≠ '[' := by cases mark <;> decide
  have split : mark.markup ++ markup = '[' :: (mark.color ++ ']' :: mark.sign :: '[' ::
      ('/' :: mark.color ++ ']' :: ' ' :: markup)) := by
    rw [Mark.markup_eq]
    simp
  exact ⟨_, _, by
    rw [split, pieces_tag 0 isTag, pieces_other _ 0 sign.1 sign.2, pieces_tag _ isClosing,
      pieces_other _ 0 (by decide) (by decide), List.replicate_zero, List.nil_append,
      List.nil_append]⟩

/-- A mark is read as its sign and a space, and what stands behind it by itself. -/
theorem read_mark (mark : Mark) (markup : List Char) :
    ∃ position, read (mark.markup ++ markup) =
      match readPieces 2 [] (pieces position 0 0 markup) with
      | .ok (text, spans) => .ok (mark.sign :: ' ' :: text, mark.opened.span 1 :: spans)
      | .error error => .error error := by
  obtain ⟨closing, behind, split⟩ := pieces_mark mark markup
  have kept : isSuppressed mark.sign = false := by cases mark <;> decide
  have gap : isSuppressed ' ' = false := by decide
  refine ⟨behind, ?_⟩
  rw [read, split]
  simp only [readPieces, afterTag_color, afterTag_close, List.filter_nil, List.filter_cons, kept,
    gap, List.length_nil, List.length_cons, Nat.zero_add, Nat.reduceAdd, Bool.not_false, if_true]
  cases readPieces 2 [] (pieces behind 0 0 markup) with
  | ok found => rfl
  | error error => rfl

/-- A mark before text is read as its sign and a space. -/
theorem read_marked (mark : Mark)
    (areText : ∀ position, AreText (pieces position 0 0 markup) text) :
    read (mark.markup ++ markup) =
      .ok (mark.sign :: ' ' :: visible text, [mark.opened.span 1]) := by
  obtain ⟨position, same⟩ := read_mark mark markup
  rw [same, readPieces_of_areText (areText position)]
  rfl

/-- A mark before text is shown as its sign, a space and the text, as the layout divides them. -/
theorem plain_marked (mark : Mark) (whole : Bool)
    (areText : ∀ position, AreText (pieces position 0 0 markup) text) :
    plain whole (mark.markup ++ markup) = .ok (layout whole (mark.sign :: ' ' :: text)) := by
  obtain ⟨style, known⟩ := exists_read_color mark
  have noFault : styleFault? whole (mark.sign :: ' ' :: visible text) [mark.opened.span 1] =
      none := by
    have styleRead : Style.read (mark.opened.span 1).style = .ok style := known
    simp [styleFault?, styleRead]
  have shown : visible (mark.sign :: ' ' :: text) = mark.sign :: ' ' :: visible text := by
    cases mark <;> rfl
  simp only [plain, read_marked mark areText, bind, Except.bind, noFault]
  rw [← shown, layout_visible]

/-- An escaped text behind a mark can always be shown, also with a text without brackets behind
it. -/
theorem plain_marked_escape_append (mark : Mark) (whole : Bool) (text : List Char)
    {tail : List Char} (noOpening : '[' ∉ tail) (noClosing : ']' ∉ tail) :
    plain whole (mark.markup ++ (escape text ++ tail)) =
      .ok (layout whole (mark.sign :: ' ' :: (passed text ++ tail))) :=
  plain_marked mark whole fun position => areText_escape_append position text noOpening noClosing

theorem plain_marked_escape (mark : Mark) (whole : Bool) (text : List Char) :
    plain whole (mark.markup ++ escape text) =
      .ok (layout whole (mark.sign :: ' ' :: passed text)) := by
  have shown := @plain_marked_escape_append mark whole text [] List.not_mem_nil List.not_mem_nil
  simpa only [List.append_nil] using shown

/-- An escaped text can always be shown. -/
theorem plain_escape (whole : Bool) (text : List Char) :
    plain whole (escape text) = .ok (layout whole (passed text)) :=
  plain_of_areText (areText_escape 0 text) whole

end Markup

end Multitarget.Console
