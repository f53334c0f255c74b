/-!
# Places in a YAML text

A mark tells the line and column of a character; a cursor is a mark together
with the characters from it on. Lines end at line feeds and at the line ends of
Unicode; a byte order mark takes no column.
-/

namespace Multitarget.Yaml

/-- The place of a character: how many characters, lines and columns come before it. -/
structure Mark where
  index : Nat
  line : Nat
  column : Nat
  deriving DecidableEq, Repr

/-- A mark and the characters from it on. -/
structure Cursor where
  rest : List Char
  mark : Mark

/-- Whether a character ends a line. -/
def isBreak (character : Char) : Bool :=
  character == '\n' || character == '\r' || character == '\x85' ||
  character == '\u2028' || character == '\u2029'

namespace Cursor

/-- The cursor before a text. -/
def start (text : List Char) : Cursor := ⟨text, ⟨0, 0, 0⟩⟩

/-- The column of the next character. -/
def column (cursor : Cursor) : Nat := cursor.mark.column

/-- The character that many places further on. -/
def peek (cursor : Cursor) (ahead : Nat) : Option Char := cursor.rest[ahead]?

/-- The next character. -/
def head (cursor : Cursor) : Option Char := cursor.rest.head?

/-- The mark behind a character that `following` stands behind. -/
def markAfter (mark : Mark) (character : Char) (following : List Char) : Mark :=
  if isBreak character && !(character == '\r' && following.head? == some '\n') then
    ⟨mark.index + 1, mark.line + 1, 0⟩
  else if character = '\uFEFF' then ⟨mark.index + 1, mark.line, mark.column⟩
  else ⟨mark.index + 1, mark.line, mark.column + 1⟩

/-- The cursor behind the next character. -/
def next (cursor : Cursor) : Cursor :=
  match cursor.rest with
  | [] => cursor
  | character :: rest => ⟨rest, markAfter cursor.mark character rest⟩

/-- The cursor that many characters further on. -/
def advance (cursor : Cursor) : Nat → Cursor
  | 0 => cursor
  | count + 1 => advance cursor.next count

/-- The characters up to the first that fails the test, and the cursor before that one. -/
def span (cursor : Cursor) (test : Char → Bool) : List Char × Cursor :=
  let text := cursor.rest.takeWhile test
  (text, cursor.advance text.length)

/-- The cursor before the first character that fails the test. -/
def skipWhile (cursor : Cursor) (test : Char → Bool) : Cursor :=
  (cursor.span test).2

/-- Whether the next character, if there is one, satisfies the test. -/
def headIs (cursor : Cursor) (test : Char → Bool) : Bool :=
  cursor.head.any test

/-- Whether no character is left, or the one that far ahead satisfies the test. -/
def endsOr (cursor : Cursor) (ahead : Nat) (test : Char → Bool) : Bool :=
  match cursor.peek ahead with
  | none => true
  | some character => test character

/-- Passes a line end, if one is next, and gives it as the text that it stands for: a line feed,
or itself for the separators of Unicode. -/
def lineBreak (cursor : Cursor) : List Char × Cursor :=
  match cursor.rest with
  | '\r' :: '\n' :: _ => (['\n'], cursor.advance 2)
  | character :: _ =>
    if character = '\r' ∨ character = '\n' ∨ character = '\x85' then (['\n'], cursor.next)
    else if isBreak character then ([character], cursor.next)
    else ([], cursor)
  | [] => ([], cursor)

end Cursor

/-- Whether a character is a space. -/
def isSpace (character : Char) : Bool := character == ' '

/-- Whether a character is a space or ends a line. -/
def isSpaceOrBreak (character : Char) : Bool := character == ' ' || isBreak character

/-- Whether a character is a space, a tabulator or ends a line. -/
def isBlankOrBreak (character : Char) : Bool :=
  character == ' ' || character == '\t' || isBreak character

/-- Whether a character may stand in an anchor's or a directive's name. -/
def isNameCharacter (character : Char) : Bool :=
  character.isAlphanum || character == '-' || character == '_'

/-- Whether a mark between documents stands here: three points or dashes, then a blank or the
end. -/
def Cursor.isDocumentMark (cursor : Cursor) (character : Char) : Bool :=
  cursor.rest.take 3 == [character, character, character] && cursor.endsOr 3 isBlankOrBreak

end Multitarget.Yaml
