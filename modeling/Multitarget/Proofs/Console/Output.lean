import Multitarget.Console.Output
import Multitarget.Proofs.Console.FirstRow
import Multitarget.Proofs.Console.Mark
import Multitarget.Proofs.Json.RoundTrip
import Multitarget.Proofs.Session.Action
import Multitarget.Session.Trace

/-!
# What is written to the console

Each way of writing to the console ends the same way whatever was written before, and writes
texts that its input alone decides. A program's output is laid out, a marked line is read as
markup first, and a document is written so that reading gives it back, for no line of it is
divided and its spelling holds nothing that the console would drop.
-/

namespace Multitarget

namespace Action

variable {α β : Type} {action : Action α} {next : α → Action β} {ending : Except Fault α}
  {later : Except Fault β} {value : α} {fault : Fault} {text more : List Char}

/-- An action ends the same way in every session, and writes a text, as one or several pieces, and
does nothing else. -/
def Prints (action : Action α) (ending : Except Fault α) (text : List Char) : Prop :=
  ∃ pieces : List (List Char), pieces.flatten = text ∧
    action.Yields ending (pieces.map fun piece => .printed (String.ofList piece))

theorem prints_pure (value : α) : (pure value : Action α).Prints (.ok value) [] :=
  ⟨[], rfl, yields_pure value⟩

theorem prints_throw (fault : Fault) : (throw fault : Action α).Prints (.error fault) [] :=
  ⟨[], rfl, yields_throw fault⟩

theorem Prints.bind_ok (first : action.Prints (.ok value) text)
    (second : (next value).Prints later more) : (action >>= next).Prints later (text ++ more) := by
  obtain ⟨pieces, rfl, yielded⟩ := first
  obtain ⟨others, rfl, yieldedLater⟩ := second
  have both := yielded.bind_ok yieldedLater
  rw [← List.map_append] at both
  exact ⟨pieces ++ others, List.flatten_append, both⟩

theorem Prints.bind_error (first : action.Prints (.error fault) text) :
    (action >>= next).Prints (.error fault) text := by
  obtain ⟨pieces, joined, yielded⟩ := first
  exact ⟨pieces, joined, yielded.bind_error⟩

/-- What writes nothing changes nothing about what was written before it. -/
theorem Prints.then_quiet (first : action.Prints (.ok value) text)
    (second : (next value).Prints later []) : (action >>= next).Prints later text := by
  have both := first.bind_ok second
  rwa [List.append_nil] at both

theorem prints_forM {act : β → Action Unit} {shown : β → List Char} (items : List β)
    (each : ∀ item, (act item).Prints (.ok ()) (shown item)) :
    (items.forM act).Prints (.ok ()) (items.flatMap shown) := by
  induction items with
  | nil => exact prints_pure ()
  | cons item rest ih => exact (each item).bind_ok ih

/-- Pieces written one behind the other are one text. -/
theorem join_pieces (pieces : List (List Char)) :
    String.join (pieces.map String.ofList) = String.ofList pieces.flatten := by
  induction pieces with
  | nil => rfl
  | cons piece rest ih =>
      rw [List.map_cons, String.join_cons, ih, List.flatten_cons, String.ofList_append]

/-- How an action that writes a text runs in a session in which nothing has been written. -/
theorem Prints.printed (prints : action.Prints ending text) {session : Session}
    (unwritten : Trace.printed session.trace = []) :
    (action session).1 = ending ∧
      String.join (Trace.printed (action session).2.trace) = String.ofList text := by
  obtain ⟨pieces, rfl, yielded⟩ := prints
  have written : Trace.printed (pieces.map fun piece => .printed (String.ofList piece)) =
      pieces.map String.ofList := by
    rw [Trace.printed, List.filterMap_map]
    exact congrFun List.filterMap_eq_map' pieces
  have whole : Trace.printed (session.trace ++
      pieces.map fun piece => .printed (String.ofList piece)) = pieces.map String.ofList := by
    rw [← written, ← List.nil_append (Trace.printed (pieces.map _)), ← unwritten]
    exact List.filterMap_append
  rw [yielded session]
  refine ⟨rfl, ?_⟩
  rw [Session.note, whole, join_pieces]

end Action

namespace Console

open Action

/-- An action writes one text before it ends, or ends with the fault in its place. -/
structure Tells {α : Type} (action : Action α) (told : Except Fault (List Char))
    (ending : Except Fault α) : Prop where
  written {text : List Char} (known : told = .ok text) : action.Prints ending text
  stopped {fault : Fault} (unknown : told = .error fault) : action.Prints (.error fault) []

namespace Tells

variable {α β : Type} {action : Action α} {next : α → Action β} {value : α}
  {told : Except Fault (List Char)} {ending : Except Fault α} {later : Except Fault β}

theorem of_ok {text : List Char} (prints : action.Prints ending text) :
    Tells action (.ok text) ending where
  written known := Except.ok.inj known ▸ prints
  stopped := nofun

theorem of_error {fault : Fault} (prints : action.Prints (.error fault) []) :
    Tells action (.error fault) ending where
  written := nofun
  stopped unknown := Except.error.inj unknown ▸ prints

theorem then_quiet (tells : Tells action told (.ok value))
    (quiet : (next value).Prints later []) : Tells (action >>= next) told later where
  written known := (tells.written known).then_quiet quiet
  stopped unknown := (tells.stopped unknown).bind_error

end Tells

theorem write_prints (text : List Char) : (write text).Prints (.ok ()) text :=
  ⟨[text], by simp, yields_emit _⟩

theorem printProgram_prints (text : List Char) :
    (printProgram text).Prints (.ok ()) (layout false text) :=
  write_prints _

/-! ## Lines -/

section Lines

variable {whole : Bool} {markup text : List Char}

/-- The line that markup behind a mark is written as, if it can be read. -/
def marked (mark : Mark) (markup : List Char) : Except Fault (List Char) :=
  match Markup.plain false (mark.markup ++ markup) with
  | .ok text => .ok (text ++ ['\n'])
  | .error error => .error (.markup error)

theorem printMarked_tells (mark : Mark) (markup : List Char) :
    Tells (printMarked mark markup) (marked mark markup) (.ok ()) := by
  rw [printMarked, printLine, marked]
  cases Markup.plain false (mark.markup ++ markup) with
  | ok text => exact .of_ok (write_prints _)
  | error error => exact .of_error (prints_throw _)

/-- Markup without brackets can be read. -/
theorem exists_marked (mark : Mark) (noBracket : '[' ∉ markup) :
    ∃ text, marked mark markup = .ok text := by
  have areText (position : Nat) := Markup.areText_of_not_mem position 0 noBracket
  exact ⟨_, by rw [marked, Markup.plain_marked mark false areText]⟩

/-- The sign of a mark is shown first, whatever is laid out behind it. -/
theorem layout_sign (mark : Mark) (whole : Bool) (text : List Char) :
    ∃ line, layout whole (mark.sign :: text) = mark.sign :: line := by
  apply layout_cons
  · cases mark <;> decide
  · cases mark <;> decide

/-- A line behind a mark starts with its sign, also if it is not escaped. -/
theorem marked_starts {mark : Mark} (readable : marked mark markup = .ok text) :
    ∃ line, text = mark.sign :: line ++ ['\n'] := by
  obtain ⟨position, same⟩ := Markup.read_mark mark markup
  rw [marked, Markup.plain, same] at readable
  cases inner : Markup.readPieces 2 [] (Markup.pieces position 0 0 markup) with
  | error error =>
      rw [inner] at readable
      cases readable
  | ok found =>
      simp only [inner, bind, Except.bind] at readable
      split at readable
      next shown known =>
        obtain rfl := Except.ok.inj readable
        split at known
        · cases known
        · obtain ⟨line, starts⟩ := layout_sign mark false (' ' :: found.1)
          exact ⟨line, by rw [← Except.ok.inj known, starts]⟩
      next => cases readable

theorem printLine_of_ok (readable : Markup.plain whole markup = .ok text) :
    (printLine whole markup).Prints (.ok ()) (text ++ ['\n']) := by
  rw [printLine, readable]
  exact write_prints _

/-- An escaped text behind a mark is always written. -/
theorem printMarked_escape (mark : Mark) (text : List Char) :
    (printMarked mark (Markup.escape text)).Prints (.ok ())
      (layout false (mark.sign :: ' ' :: Markup.passed text) ++ ['\n']) :=
  printLine_of_ok (Markup.plain_marked_escape mark false text)

/-- An escaped text behind a mark is always written, also with a text without brackets behind it. -/
theorem printMarked_escape_append (mark : Mark) (text : List Char) {tail : List Char}
    (noOpening : '[' ∉ tail) (noClosing : ']' ∉ tail) :
    (printMarked mark (Markup.escape text ++ tail)).Prints (.ok ())
      (layout false (mark.sign :: ' ' :: (Markup.passed text ++ tail)) ++ ['\n']) :=
  printLine_of_ok (Markup.plain_marked_escape_append mark false text noOpening noClosing)

theorem printRefusal_prints (message : String) :
    (printRefusal message).Prints (.ok ())
      (layout true (Mark.failure.sign :: ' ' :: Markup.passed message.toList) ++ ['\n']) :=
  printLine_of_ok (Markup.plain_marked_escape .failure true message.toList)

end Lines

/-! ## Documents -/

section Documents

variable {document : Json.Document}

theorem isClean_of_isShown {text : List Char} (shown : Json.IsShown text) : IsClean text := by
  intro character listed
  rcases shown character listed with rfl | printable
  · decide
  · constructor
    · have above (control : Char) (low : control.toNat < 0x20) :
          (character == control) = false := by
        apply beq_eq_false_iff_ne.mpr
        rintro rfl
        omega
      simp only [isSuppressed, above _ (by decide : '\x07'.toNat < 0x20),
        above _ (by decide : '\x08'.toNat < 0x20), above _ (by decide : '\x0b'.toNat < 0x20),
        above _ (by decide : '\x0c'.toNat < 0x20), above _ (by decide : '\r'.toNat < 0x20),
        Bool.or_false]
    · rintro rfl
      exact absurd printable (by decide)

/-- A document is written with an item to a line; the console changes nothing about it. -/
theorem printDocument_prints (plain : Json.IsPlain document)
    (writable : Json.isWritable document = true) :
    (printDocument document).Prints (.ok ()) (Json.printIndented 0 document ++ ['\n']) := by
  have shown := Json.isShown_spells (Json.printIndented_spells 0 document plain writable)
  have unchanged : layout true (Json.printIndented 0 document) = Json.printIndented 0 document :=
    layout_true (isClean_of_isShown shown)
  rw [printDocument, if_pos writable]
  simp only [Json.read_printLine true plain writable, unchanged]
  exact write_prints _

theorem printDocument_unwritable (tooLong : Json.isWritable document = false) :
    (printDocument document).Prints (.error .longNumeral) [] := by
  rw [printDocument, if_neg (by simp [tooLong])]
  exact prints_throw _

/-- The text that a document is written as, if its numerals are not too long. -/
def spelled (document : Json.Document) : Except Fault (List Char) :=
  if Json.isWritable document then .ok (Json.printIndented 0 document ++ ['\n'])
  else .error .longNumeral

theorem printDocument_tells (plain : Json.IsPlain document) :
    Tells (printDocument document) (spelled document) (.ok ()) := by
  rw [spelled]
  by_cases writable : Json.isWritable document = true
  · rw [if_pos writable]
    exact .of_ok (printDocument_prints plain writable)
  · rw [if_neg writable]
    exact .of_error (printDocument_unwritable (Bool.eq_false_iff.mpr writable))

end Documents

end Console

end Multitarget
