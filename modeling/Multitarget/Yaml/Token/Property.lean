import Multitarget.Text.Integer
import Multitarget.Yaml.Token

/-!
# Scanning properties and directives

Anchors, aliases and tags of nodes, and the directives before a document.
-/

namespace Multitarget.Yaml

/-- Scans the name behind the sign of an anchor or alias. -/
def scanAnchorName (cursor : Cursor) : Except Error (String × Cursor) := do
  let (name, cursor) := cursor.next.span isNameCharacter
  if name.isEmpty then cursor.failExpected "alphabetic or numeric character"
  if cursor.endsOr 0 fun character =>
      isBlankOrBreak character || "?:,]\x7d%@`".toList.contains character then
    return (String.ofList name, cursor)
  cursor.failExpected "alphabetic or numeric character"

/-- Scans one byte behind a percent sign. -/
def scanUriByte (cursor : Cursor) : Except Error (UInt8 × Cursor) := do
  let wanted := "URI escape sequence of 2 hexadecimal numbers"
  match cursor.peek 0, cursor.peek 1 with
  | some high, some low =>
    match Text.digitOf 16 high, Text.digitOf 16 low with
    | some high, some low => return (.ofNat (high * 16 + low), cursor.advance 2)
    | none, _ => cursor.fail (.expected wanted high)
    | _, none => cursor.fail (.expected wanted low)
  | some high, none =>
    if Text.isHexDigit high then cursor.fail (.expected wanted none)
    else cursor.fail (.expected wanted high)
  | none, _ => cursor.fail (.expected wanted none)

/-- Scans bytes behind percent signs, as long as percent signs follow. -/
def scanUriBytes : (fuel : Nat) → Cursor → Except Error (Text.Bytes × Cursor)
  | 0, cursor => .ok ([], cursor)
  | fuel + 1, cursor =>
    if cursor.head = some '%' then do
      let (byte, cursor) ← scanUriByte cursor.next
      let (bytes, cursor) ← scanUriBytes fuel cursor
      return (byte :: bytes, cursor)
    else .ok ([], cursor)

/-- Whether a character may stand in a tag's address as itself. -/
def isUriCharacter (character : Char) : Bool :=
  character.isAlphanum || "-;/?:@&=+$,_.!~*'()[]".toList.contains character

/-- Scans the pieces of a tag's address: plain characters and escaped ones. -/
def scanUriPieces : (fuel : Nat) → Cursor → Except Error ((List Char) × Cursor)
  | 0, cursor => .ok ([], cursor)
  | fuel + 1, cursor => do
    let (text, cursor) := cursor.span isUriCharacter
    if cursor.head = some '%' then
      let (bytes, behind) ← scanUriBytes fuel cursor
      match Text.Utf8.decode bytes with
      | .error failure => cursor.fail (.encoding failure)
      | .ok decoded =>
        let (rest, behind) ← scanUriPieces fuel behind
        return (text ++ decoded ++ rest, behind)
    else return (text, cursor)

/-- Scans a tag's address, which is not empty. -/
def scanUri (cursor : Cursor) : Except Error (String × Cursor) := do
  let empty :=
    !cursor.headIs fun character => isUriCharacter character || character == '%'
  if empty then cursor.failExpected "URI"
  let (text, cursor) ← scanUriPieces (cursor.rest.length + 1) cursor
  return (String.ofList text, cursor)

/-- Scans a tag's handle: an exclamation mark alone, or two around a name. -/
def scanTagHandle (cursor : Cursor) : Except Error (String × Cursor) := do
  if cursor.head ≠ some '!' then cursor.failExpected "'!'"
  if cursor.peek 1 = some ' ' then return ("!", cursor.next)
  let (name, behind) := cursor.next.span isNameCharacter
  if behind.head ≠ some '!' then behind.failExpected "'!'"
  return (String.ofList ('!' :: (name ++ ['!'])), behind.next)

/-- Whether a second exclamation mark stands before the next space or line end. -/
def hasSecondMark (cursor : Cursor) : Bool :=
  (cursor.rest.drop 1).takeWhile (fun character => !isSpaceOrBreak character) |>.contains '!'

/-- Scans a tag: an address in angle brackets, a lone mark, or a handle and the rest of a name. -/
def scanTag (cursor : Cursor) : Except Error (TokenKind × Cursor) := do
  let (kind, behind) ←
    (if cursor.peek 1 = some '<' then do
      let (suffix, behind) ← scanUri (cursor.advance 2)
      if behind.head ≠ some '>' then behind.failExpected "'>'"
      pure (TokenKind.tag none suffix, behind.next)
    else if cursor.endsOr 1 isBlankOrBreak then
      pure (TokenKind.tag none "!", cursor.next)
    else do
      let (handle, behind) ←
        if hasSecondMark cursor then scanTagHandle cursor else pure ("!", cursor.next)
      let (suffix, behind) ← scanUri behind
      pure (TokenKind.tag (some handle) suffix, behind) : Except Error (TokenKind × Cursor))
  if behind.endsOr 0 isSpaceOrBreak then return (kind, behind)
  behind.failExpected "' '"

/-- Passes what may stand behind something on its line: spaces, a comment and the line end. -/
def skipLineRest (cursor : Cursor) : Except Error Cursor :=
  let cursor := cursor.skipWhile isSpace
  let cursor :=
    if cursor.head = some '#' then cursor.skipWhile fun character => !isBreak character
    else cursor
  if cursor.endsOr 0 isBreak then .ok cursor.lineBreak.2
  else cursor.failExpected "a comment or a line break"

/-- Scans a number of a version. -/
def scanVersionNumber (cursor : Cursor) : Except Error (Nat × Cursor) := do
  if !cursor.headIs Text.isDigit then cursor.failExpected "a digit"
  let (digits, behind) := cursor.span Text.isDigit
  if 4300 < digits.length then .error (.mismatch (.longInteger digits.length) cursor.mark)
  return ((Text.numeral 10 digits).getD 0, behind)

/-- Scans what stands behind the name of a version directive. -/
def scanVersion (cursor : Cursor) : Except Error (Directive × Cursor) := do
  let (major, cursor) ← scanVersionNumber (cursor.skipWhile isSpace)
  if cursor.head ≠ some '.' then cursor.failExpected "a digit or '.'"
  let (minor, cursor) ← scanVersionNumber cursor.next
  if cursor.endsOr 0 isSpaceOrBreak then return (.version major minor, cursor)
  cursor.failExpected "a digit or ' '"

/-- Scans what stands behind the name of a tag directive. -/
def scanHandleDirective (cursor : Cursor) : Except Error (Directive × Cursor) := do
  let (handle, cursor) ← scanTagHandle (cursor.skipWhile isSpace)
  if cursor.head ≠ some ' ' then cursor.failExpected "' '"
  let (tagPrefix, cursor) ← scanUri (cursor.skipWhile isSpace)
  if cursor.endsOr 0 isSpaceOrBreak then return (.handle handle tagPrefix, cursor)
  cursor.failExpected "' '"

/-- Scans a directive with its line; unknown directives are passed over. The place behind the
directive itself comes before what remains of the line. -/
def scanDirective (cursor : Cursor) : Except Error ((Directive × Mark) × Cursor) := do
  let (name, cursor) := cursor.next.span isNameCharacter
  if name.isEmpty then cursor.failExpected "alphabetic or numeric character"
  if !cursor.endsOr 0 isSpaceOrBreak then
    cursor.failExpected "alphabetic or numeric character"
  let ((directive, stop), cursor) ←
    (if name = "YAML".toList then do
      let (directive, cursor) ← scanVersion cursor
      pure ((directive, cursor.mark), cursor)
    else if name = "TAG".toList then do
      let (directive, cursor) ← scanHandleDirective cursor
      pure ((directive, cursor.mark), cursor)
    else
      pure ((Directive.other, cursor.mark),
        cursor.skipWhile fun character => !isBreak character) : Except Error ((Directive × Mark) × Cursor))
  return ((directive, stop), ← skipLineRest cursor)

end Multitarget.Yaml
