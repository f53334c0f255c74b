import Multitarget.Yaml.Token.Property

/-!
# Scanning scalars

Literal and folded blocks, single and double quotes, and plain text. A scalar
over several lines keeps its line ends or folds them into spaces, each style by
its own rules.
-/

namespace Multitarget.Yaml

/-- Whether a character is a space or a tabulator. -/
def isSpaceOrTab (character : Char) : Bool := character == ' ' || character == '\t'

/-! ## Blocks -/

/-- What the header of a block says: whether trailing line ends are kept (all or none of them, or
one if it does not say), and how far the text is indented. -/
structure BlockHeader where
  keep : Option Bool
  increment : Option Nat

/-- Scans the sign of a block's header. -/
def scanKeep (cursor : Cursor) : Option Bool × Cursor :=
  match cursor.head with
  | some '+' => (some true, cursor.next)
  | some '-' => (some false, cursor.next)
  | _ => (none, cursor)

/-- Scans the digit of a block's header. -/
def scanIncrement (cursor : Cursor) : Except Error (Option Nat × Cursor) :=
  match cursor.head.bind (Text.digitOf 10) with
  | none => .ok (none, cursor)
  | some 0 => cursor.fail .zeroIndentation
  | some increment => .ok (some increment, cursor.next)

/-- Scans the header of a block: a sign and a digit in either order. -/
def scanBlockHeader (cursor : Cursor) : Except Error (BlockHeader × Cursor) := do
  let (sign, behind) := scanKeep cursor
  let (increment, behind) ← scanIncrement behind
  let (keep, behind) :=
    if sign.isNone && increment.isSome then scanKeep behind else (sign, behind)
  if behind.endsOr 0 isSpaceOrBreak then return (⟨keep, increment⟩, behind)
  behind.failExpected "chomping or indentation indicators"

/-- Passes spaces, but none at or beyond the column. -/
def skipIndent (column : Nat) (cursor : Cursor) : Cursor :=
  cursor.advance (min (cursor.rest.takeWhile isSpace).length (column - cursor.column))

/-- Scans empty lines and finds the deepest column that spaces reach on them or before the first
text. -/
def scanBlockIndent : (fuel : Nat) → Cursor → (deepest : Nat) → List Char × Nat × Cursor
  | 0, cursor, deepest => ([], deepest, cursor)
  | fuel + 1, cursor, deepest =>
    let cursor := cursor.skipWhile isSpace
    let deepest := max deepest cursor.column
    if cursor.headIs isBreak then
      let (ending, behind) := cursor.lineBreak
      let (endings, deepest, behind) := scanBlockIndent fuel behind deepest
      (ending ++ endings, deepest, behind)
    else ([], deepest, cursor)

/-- Scans empty lines, indented to the column at most. -/
def scanBlockBreaks (column : Nat) : (fuel : Nat) → Cursor → List Char × Cursor
  | 0, cursor => ([], cursor)
  | fuel + 1, cursor =>
    let cursor := skipIndent column cursor
    if cursor.headIs isBreak then
      let (ending, behind) := cursor.lineBreak
      let (endings, behind) := scanBlockBreaks column fuel behind
      (ending ++ endings, behind)
    else ([], cursor)

/-- The text of a block, the end of its last line, and the empty lines behind that. -/
structure BlockText where
  text : List Char
  ending : List Char
  trailing : List Char

/-- Whether a line of the block starts at the cursor. -/
def atBlockLine (column : Nat) (cursor : Cursor) : Bool :=
  cursor.column == column && !cursor.rest.isEmpty

/-- Scans the lines of a block behind some empty lines. Folding turns a single line end between
lines that start with text into a space. -/
def scanBlockLines (folded : Bool) (column : Nat) :
    (fuel : Nat) → Cursor → (breaks : List Char) → BlockText × Cursor
  | 0, cursor, breaks => (⟨[], [], breaks⟩, cursor)
  | fuel + 1, cursor, breaks =>
    if atBlockLine column cursor then
      let (text, behind) := cursor.span fun character => !isBreak character
      let (ending, behind) := behind.lineBreak
      let (empty, behind) := scanBlockBreaks column (behind.rest.length + 1) behind
      if atBlockLine column behind then
        let folds := folded && ending == ['\n'] && !cursor.headIs isSpaceOrTab &&
          !behind.headIs isSpaceOrTab
        let between := if folds then (if empty.isEmpty then [' '] else []) else ending
        let (block, behind) := scanBlockLines folded column fuel behind empty
        ({ block with text := breaks ++ text ++ between ++ block.text }, behind)
      else (⟨breaks ++ text, ending, empty⟩, behind)
    else (⟨[], [], breaks⟩, cursor)

/-- Scans a block inside a collection of the given indentation. -/
def scanBlock (folded : Bool) (indent : Int) (cursor : Cursor) :
    Except Error (String × Cursor) := do
  let (header, behind) ← scanBlockHeader cursor.next
  let behind ← skipLineRest behind
  let fuel := behind.rest.length + 1
  let least := max (indent + 1).toNat 1
  let (column, breaks, behind) :=
    match header.increment with
    | none =>
      let (breaks, deepest, behind) := scanBlockIndent fuel behind 0
      (max least deepest, breaks, behind)
    | some increment =>
      let column := least + increment - 1
      let (breaks, behind) := scanBlockBreaks column fuel behind
      (column, breaks, behind)
  let (block, behind) := scanBlockLines folded column fuel behind breaks
  let tail :=
    match header.keep with
    | none => block.ending
    | some true => block.ending ++ block.trailing
    | some false => []
  return (String.ofList (block.text ++ tail), behind)

/-! ## Quotes -/

/-- Scans the line ends and blanks behind a line end inside quotes. -/
def scanQuotedBreaks : (fuel : Nat) → Cursor → Except Error (List Char × Cursor)
  | 0, cursor => .ok ([], cursor)
  | fuel + 1, cursor =>
    if cursor.isDocumentMark '-' || cursor.isDocumentMark '.' then cursor.fail .separatorInQuotes
    else do
      let cursor := cursor.skipWhile isSpaceOrTab
      if cursor.headIs isBreak then
        let (ending, behind) := cursor.lineBreak
        let (endings, behind) ← scanQuotedBreaks fuel behind
        return (ending ++ endings, behind)
      else return ([], cursor)

/-- What the character behind a backslash stands for. -/
def escapeMeaning : Char → Option Char
  | '0' => some '\x00'
  | 'a' => some '\x07'
  | 'b' => some '\x08'
  | 't' => some '\t'
  | '\t' => some '\t'
  | 'n' => some '\n'
  | 'v' => some '\x0b'
  | 'f' => some '\x0c'
  | 'r' => some '\r'
  | 'e' => some '\x1b'
  | ' ' => some ' '
  | '"' => some '"'
  | '\\' => some '\\'
  | '/' => some '/'
  | 'N' => some '\x85'
  | '_' => some '\xa0'
  | 'L' => some '\u2028'
  | 'P' => some '\u2029'
  | _ => none

/-- How many hexadecimal digits follow the character behind a backslash. -/
def escapeLength : Char → Option Nat
  | 'x' => some 2
  | 'u' => some 4
  | 'U' => some 8
  | _ => none

/-- Scans the character written by some hexadecimal digits. -/
def scanCode (length : Nat) (cursor : Cursor) : Except Error (Char × Cursor) := do
  let digits := (cursor.rest.take length).takeWhile Text.isHexDigit
  if digits.length < length then
    cursor.fail (.expected
      ("escape sequence of " ++ toString length ++ " hexadecimal numbers")
      (cursor.peek digits.length))
  let code := (Text.numeral 16 digits).getD 0
  if 0x10FFFF < code then .error (.mismatch (.character code) cursor.mark)
  return (if 0xD800 ≤ code ∧ code ≤ 0xDFFF then '\uFFFD' else Char.ofNat code,
    cursor.advance length)

/-- Scans an escape behind its backslash. -/
def scanEscape (cursor : Cursor) : Except Error (List Char × Cursor) :=
  match cursor.head with
  | none => cursor.fail (.unknownEscape none)
  | some character =>
    match escapeMeaning character, escapeLength character with
    | some meaning, _ => .ok ([meaning], cursor.next)
    | none, some length => (scanCode length cursor.next).map fun (code, behind) => ([code], behind)
    | none, none =>
      if isBreak character then
        scanQuotedBreaks (cursor.rest.length + 1) cursor.lineBreak.2
      else cursor.fail (.unknownEscape (some character))

/-- Whether a character has no meaning inside quotes. -/
def isQuotedText (character : Char) : Bool :=
  !(character == '\'' || character == '"' || character == '\\' || isBlankOrBreak character)

/-- Scans text inside quotes up to the next blank or the closing quote. -/
def scanQuotedText (double : Bool) : (fuel : Nat) → Cursor → Except Error (List Char × Cursor)
  | 0, cursor => .ok ([], cursor)
  | fuel + 1, cursor => do
    let (text, cursor) := cursor.span isQuotedText
    let more (piece : List Char) (behind : Cursor) : Except Error (List Char × Cursor) := do
      let (rest, behind) ← scanQuotedText double fuel behind
      return (text ++ piece ++ rest, behind)
    match cursor.head with
    | some '\'' =>
      if double then more ['\''] cursor.next
      else if cursor.peek 1 = some '\'' then more ['\''] (cursor.advance 2)
      else return (text, cursor)
    | some '"' => if double then return (text, cursor) else more ['"'] cursor.next
    | some '\\' =>
      if double then
        let (piece, behind) ← scanEscape cursor.next
        more piece behind
      else more ['\\'] cursor.next
    | _ => return (text, cursor)

/-- Scans blanks inside quotes: as they are within a line, folded around line ends. -/
def scanQuotedBlanks (cursor : Cursor) : Except Error (List Char × Cursor) := do
  let (blanks, cursor) := cursor.span isSpaceOrTab
  if cursor.rest.isEmpty then cursor.fail .endInQuotes
  if cursor.headIs isBreak then
    let (ending, behind) := cursor.lineBreak
    let (endings, behind) ← scanQuotedBreaks (behind.rest.length + 1) behind
    let folded :=
      if ending ≠ ['\n'] then ending ++ endings
      else if endings.isEmpty then [' ']
      else endings
    return (folded, behind)
  return (blanks, cursor)

/-- Scans the rest of a quoted scalar up to its closing quote. -/
def scanQuotedRest (double : Bool) (quote : Char) :
    (fuel : Nat) → Cursor → Except Error (List Char × Cursor)
  | 0, cursor => cursor.fail .endInQuotes
  | fuel + 1, cursor =>
    if cursor.head = some quote then .ok ([], cursor.next)
    else do
      let (blanks, cursor) ← scanQuotedBlanks cursor
      let (text, cursor) ← scanQuotedText double (cursor.rest.length + 1) cursor
      let (rest, cursor) ← scanQuotedRest double quote fuel cursor
      return (blanks ++ text ++ rest, cursor)

/-- Scans a quoted scalar. -/
def scanQuoted (double : Bool) (cursor : Cursor) : Except Error (String × Cursor) := do
  let quote := if double then '"' else '\''
  let fuel := cursor.rest.length + 1
  let (text, cursor) ← scanQuotedText double fuel cursor.next
  let (rest, cursor) ← scanQuotedRest double quote fuel cursor
  return (String.ofList (text ++ rest), cursor)

/-! ## Plain text -/

/-- Whether plain text stops before the first of these characters: at a blank, before a colon that
ends a key, and in flow collections at their signs. -/
def plainStops (inFlow : Bool) : List Char → Bool
  | [] => true
  | character :: rest =>
    isBlankOrBreak character ||
      (character == ':' &&
        match rest with
        | [] => true
        | following :: _ =>
          isBlankOrBreak following || (inFlow && ",[]\x7b\x7d".toList.contains following)) ||
      (inFlow && ",?[]\x7b\x7d".toList.contains character)

/-- The length of the plain text at the start. -/
def plainLength (inFlow : Bool) : List Char → Nat
  | [] => 0
  | character :: rest =>
    if plainStops inFlow (character :: rest) then 0 else plainLength inFlow rest + 1

/-- The blanks behind a piece of plain text: none, or what they count as; and whether they pass
the end of a line. -/
structure PlainGap where
  text : List Char
  passesLine : Bool
  /-- A mark between documents follows, so the scalar ends. -/
  stops : Bool

/-- Scans empty lines behind a line of plain text; stops at a mark between documents. -/
def scanPlainBreaks : (fuel : Nat) → Cursor → (List Char × Bool) × Cursor
  | 0, cursor => (([], false), cursor)
  | fuel + 1, cursor =>
    if cursor.isDocumentMark '-' || cursor.isDocumentMark '.' then (([], true), cursor)
    else
      let cursor := cursor.skipWhile isSpace
      if cursor.headIs isBreak then
        let (ending, behind) := cursor.lineBreak
        let ((endings, stops), behind) := scanPlainBreaks fuel behind
        ((ending ++ endings, stops), behind)
      else (([], false), cursor)

/-- Scans the blanks behind a piece of plain text. -/
def scanPlainGap (cursor : Cursor) : PlainGap × Cursor :=
  let (blanks, cursor) := cursor.span isSpace
  if cursor.headIs isBreak then
    let (ending, behind) := cursor.lineBreak
    let ((endings, stops), behind) := scanPlainBreaks (behind.rest.length + 1) behind
    let text :=
      if ending ≠ ['\n'] then ending ++ endings
      else if endings.isEmpty then [' ']
      else endings
    (⟨text, true, stops⟩, behind)
  else (⟨blanks, false, false⟩, cursor)

/-- Scans plain text piece by piece; `gap` stands before the next piece. Also tells whether the
blanks behind the last piece pass the end of a line. -/
def scanPlainPieces (inFlow : Bool) (indent : Int) :
    (fuel : Nat) → Cursor → (gap : List Char) → (passed : Bool) → (List Char × Bool) × Cursor
  | 0, cursor, _, passed => (([], passed), cursor)
  | fuel + 1, cursor, gap, passed =>
    let length := if cursor.head = some '#' then 0 else plainLength inFlow cursor.rest
    if length = 0 then (([], passed), cursor)
    else
      let text := cursor.rest.take length
      let (next, behind) := scanPlainGap (cursor.advance length)
      if next.stops || next.text.isEmpty || behind.head == some '#' ||
          (!inFlow && decide ((behind.column : Int) < indent)) then
        ((gap ++ text, next.passesLine), behind)
      else
        let ((rest, passed), behind) :=
          scanPlainPieces inFlow indent fuel behind next.text next.passesLine
        ((gap ++ text ++ rest, passed), behind)

/-- Scans a plain scalar inside a collection of the given indentation; also tells whether a line
end was passed behind it. -/
def scanPlain (inFlow : Bool) (indent : Int) (cursor : Cursor) : (String × Bool) × Cursor :=
  let ((text, passed), behind) :=
    scanPlainPieces inFlow (indent + 1) (cursor.rest.length + 1) cursor [] false
  ((String.ofList text, passed), behind)

end Multitarget.Yaml
