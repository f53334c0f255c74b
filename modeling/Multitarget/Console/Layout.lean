import Multitarget.Text.Blank
import Multitarget.Text.CellWidth
import Multitarget.Text.Lines

/-!
# Layout

A console shows lines of a fixed number of cells. Control characters that would
move the cursor are dropped, tabs become spaces, and a line that is too long is
divided: between words where that helps, and inside a word only if the word alone
is too long. White space that would stick out at the end of a line is dropped.
-/

namespace Multitarget.Console

/-- The cells of a line. -/
def lineWidth : Nat := 80

/-- The cells between two tab stops. -/
def tabWidth : Nat := 8

/-- Control characters that are not shown: the bell, the backspace, the vertical tab, the form feed
and the carriage return. -/
def isSuppressed (character : Char) : Bool :=
  character == '\x07' || character == '\x08' || character == '\x0b' || character == '\x0c' ||
  character == '\r'

/-- The parts of a line between its tabs as a line from a column on. A space stands for a tab, and
further ones behind it lead to a tab stop. -/
def joinParts (column : Nat) : List (List Char) → List Char
  | [] => []
  | [part] => part
  | part :: rest =>
    let filled := part ++ [' ']
    let column := column + Text.cellsOf filled
    let spaces := (tabWidth - column % tabWidth) % tabWidth
    filled ++ List.replicate spaces ' ' ++ joinParts (column + spaces) rest

/-- A line with spaces up to the next tab stop for each tab. -/
def expandTabs (line : List Char) : List Char :=
  joinParts 0 (Text.splitAt '\t' line)

/-- A text cut before each character that is not blank and follows one that is. -/
def cutWords : List Char → List (List Char)
  | [] => []
  | first :: rest =>
    match cutWords rest with
    | [] => [[first]]
    | [] :: words => [first] :: words
    | (second :: word) :: words =>
      if Text.isBlank first && !Text.isBlank second then [first] :: (second :: word) :: words
      else (first :: second :: word) :: words

/-- The words of a line, each with the blanks behind it, the first also with those before it. A
line of blanks is one word. -/
def wordsOf (line : List Char) : List (List Char) :=
  let lead := line.takeWhile Text.isBlank
  match cutWords (line.dropWhile Text.isBlank) with
  | [] => if lead.isEmpty then [] else [lead]
  | word :: words => (lead ++ word) :: words

/-- The first piece of the clusters of a word, from a number of used cells on, and the pieces behind
it: each as long as fits a line. -/
def chop (used : Nat) : List Text.Cluster → List Char × List (List Char)
  | [] => ([], [])
  | cluster :: rest =>
    if lineWidth < used + cluster.cells then
      let (piece, pieces) := chop cluster.cells rest
      ([], (cluster.characters ++ piece) :: pieces)
    else
      let (piece, pieces) := chop (used + cluster.cells) rest
      (cluster.characters ++ piece, pieces)

/-- The cells of a word without the blanks behind it. -/
def wordCells (word : List Char) : Nat :=
  Text.cellsOf (Text.dropEndWhile Text.isBlank word)

/-- Pieces that each end a line, but for the last, which further words follow. -/
def breakPieces (piece : List Char) : List (List Char) → List (List Char) × List Char
  | [] => ([], piece)
  | next :: rest =>
    let (lines, last) := breakPieces next rest
    (piece :: lines, last)

/-- Divides words into lines; `line` is the line so far, which uses a number of cells, and nothing
stands before it if it is empty. -/
def divideWords (line : List Char) (used : Nat) : List (List Char) → List (List Char)
  | [] => [line]
  | word :: rest =>
    if used + wordCells word ≤ lineWidth then
      divideWords (line ++ word) (used + Text.cellsOf word) rest
    else if lineWidth < wordCells word then
      let (piece, pieces) := chop 0 (Text.clusters word)
      let (lines, last) := breakPieces piece pieces
      let divided := lines ++ divideWords last (Text.cellsOf last) rest
      if line.isEmpty then divided else line :: divided
    else if used ≠ 0 ∧ line ≠ [] then
      line :: divideWords word (Text.cellsOf word) rest
    else divideWords (line ++ word) used rest

/-- Divides a line; a line of blanks stays whole. -/
def divide (line : List Char) : List (List Char) :=
  if line.all Text.isBlank then [line] else divideWords [] 0 (wordsOf line)

/-- The line without the blanks at its end that lie beyond the width, counted in characters. -/
def trimExcess (line : List Char) : List Char :=
  let blanks := (line.reverse.takeWhile Text.isBlank).length
  line.take (line.length - min blanks (line.length - lineWidth))

/-- The clusters that fit a number of cells; a space takes the place of half a cluster. -/
def crop (cells : Nat) : List Text.Cluster → List Char
  | [] => []
  | cluster :: rest =>
    if cells = 0 then []
    else if cluster.cells ≤ cells then cluster.characters ++ crop (cells - cluster.cells) rest
    else [' ']

/-- Fits a divided line to the width. -/
def fit (line : List Char) : List Char :=
  let line := trimExcess line
  if lineWidth < Text.cellsOf line then crop lineWidth (Text.clusters line) else line

/-- A text as the console shows it; `whole` leaves its lines undivided. -/
def layout (whole : Bool) (text : List Char) : List Char :=
  let lines := (Text.lines (text.filter fun character => !isSuppressed character)).map
    expandTabs
  Text.join ['\n'] (if whole then lines else lines.flatMap fun line => (divide line).map fit)

end Multitarget.Console
