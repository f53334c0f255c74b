import Multitarget.Yaml.Token.Scalar

/-!
# The tokens of a text

Tokens are scanned in order. What starts like the key of a mapping is held back
until a colon shows that it is one, and then stands behind a key token. So a
scanner has two lists: tokens that are settled, and tokens still held back.
A fault ends the list; tokens settled before it are still there.
-/

namespace Multitarget.Yaml

/-- Where a key may have started: the number of its token, and its place. -/
structure PossibleKey where
  number : Nat
  required : Bool
  mark : Mark
  deriving Repr

/-- The state of a scanner. -/
structure Scanner where
  cursor : Cursor
  /-- Settled tokens, the last one first. -/
  settled : List Token
  /-- Tokens held back, in order. -/
  held : List Token
  /-- The column of the present block collection, and those around it. -/
  indent : Int
  indents : List Int
  /-- How many flow collections are open; more closed than opened count below zero. -/
  depth : Int
  /-- Whether a key may start here. -/
  allowKey : Bool
  /-- Possible keys by depth. -/
  keys : List (Int × PossibleKey)
  done : Bool

namespace Scanner

/-- The scanner before a text. A byte order mark at its start is passed. -/
def start (text : List Char) : Scanner :=
  let cursor := Cursor.start text
  let behind := if cursor.head = some '\uFEFF' then cursor.next else cursor
  { cursor := behind
    settled := [⟨.streamStart, cursor.mark, cursor.mark⟩]
    held := []
    indent := -1
    indents := []
    depth := 0
    allowKey := true
    keys := []
    done := false }

/-- Whether the scanner is in block collections only. -/
def inBlock (scanner : Scanner) : Bool := scanner.depth == 0

/-- Holds back a token. -/
def push (scanner : Scanner) (kind : TokenKind) (start stop : Mark) : Scanner :=
  { scanner with held := scanner.held ++ [⟨kind, start, stop⟩] }

/-- Holds back a token without characters at the cursor. -/
def pushHere (scanner : Scanner) (kind : TokenKind) : Scanner :=
  scanner.push kind scanner.cursor.mark scanner.cursor.mark

/-- Holds back a token of some characters. -/
def pushNext (scanner : Scanner) (kind : TokenKind) (length : Nat) : Scanner :=
  let behind := scanner.cursor.advance length
  { scanner.push kind scanner.cursor.mark behind.mark with cursor := behind }

/-- The number that the next token gets. -/
def nextNumber (scanner : Scanner) : Nat :=
  scanner.settled.length + scanner.held.length

/-- Fails for a key that a line starts with and that no colon follows. -/
def failKey {α : Type} (scanner : Scanner) : Except Error α :=
  scanner.cursor.fail .keyWithoutColon

/-- Whether a key can no longer be one: it is on an earlier line or too far back. -/
def isStale (scanner : Scanner) (key : PossibleKey) : Bool :=
  key.mark.line != scanner.cursor.mark.line ||
    decide (1024 < scanner.cursor.mark.index - key.mark.index)

/-- Forgets keys that can no longer be one. -/
def dropStale (scanner : Scanner) : Except Error Scanner :=
  if scanner.keys.any fun entry => entry.2.required && scanner.isStale entry.2 then
    scanner.failKey
  else .ok { scanner with keys := scanner.keys.filter fun entry => !scanner.isStale entry.2 }

/-- The possible key of the present depth. -/
def key? (scanner : Scanner) : Option PossibleKey :=
  (scanner.keys.find? fun entry => entry.1 == scanner.depth).map Prod.snd

/-- Forgets the possible key of the present depth without looking at it. -/
def eraseKey (scanner : Scanner) : Scanner :=
  { scanner with keys := scanner.keys.filter fun entry => entry.1 != scanner.depth }

/-- Forgets the possible key of the present depth. -/
def removeKey (scanner : Scanner) : Except Error Scanner :=
  if scanner.key?.any PossibleKey.required then scanner.failKey else .ok scanner.eraseKey

/-- Notes that a key may start at the cursor. -/
def saveKey (scanner : Scanner) : Except Error Scanner := do
  if scanner.allowKey then
    let required := scanner.inBlock && scanner.indent == scanner.cursor.column
    let cleared ← scanner.removeKey
    let key : PossibleKey := ⟨scanner.nextNumber, required, scanner.cursor.mark⟩
    return { cleared with keys := cleared.keys ++ [(scanner.depth, key)] }
  return scanner

/-- Closes block collections that stand deeper than the column. -/
def unwindTo (column : Int) : List Int → Scanner → Scanner
  | [], scanner => scanner
  | outer :: rest, scanner =>
    if column < scanner.indent then
      unwindTo column rest { scanner.pushHere .blockEnd with indent := outer, indents := rest }
    else scanner

/-- Closes block collections that stand deeper than the column; inside flow collections columns
do not count. -/
def unwind (scanner : Scanner) (column : Int) : Scanner :=
  if scanner.inBlock then unwindTo column scanner.indents scanner else scanner

/-- Opens a block collection at a column if it stands deeper than the present one; tells whether
it did. -/
def addIndent (scanner : Scanner) (column : Nat) : Bool × Scanner :=
  if scanner.indent < column then
    (true, { scanner with indents := scanner.indent :: scanner.indents, indent := column })
  else (false, scanner)

/-- Passes spaces, comments and line ends; outside flow collections a line end allows a key. -/
def skipToToken : (fuel : Nat) → Scanner → Scanner
  | 0, scanner => scanner
  | fuel + 1, scanner =>
    let cursor := scanner.cursor.skipWhile isSpace
    let cursor :=
      if cursor.head = some '#' then cursor.skipWhile fun character => !isBreak character
      else cursor
    if cursor.headIs isBreak then
      skipToToken fuel { scanner with
        cursor := cursor.lineBreak.2
        allowKey := scanner.allowKey || scanner.inBlock }
    else { scanner with cursor }

/-- The end of the text. -/
def fetchEnd (scanner : Scanner) : Except Error Scanner := do
  let scanner ← (scanner.unwind (-1)).removeKey
  return { scanner.pushHere .streamEnd with allowKey := false, keys := [], done := true }

/-- A directive. -/
def fetchDirective (scanner : Scanner) : Except Error Scanner := do
  let scanner ← (scanner.unwind (-1)).removeKey
  let ((directive, stop), behind) ← scanDirective scanner.cursor
  return { scanner.push (.directive directive) scanner.cursor.mark stop with
    cursor := behind, allowKey := false }

/-- A mark before or behind a document. -/
def fetchDocumentMark (scanner : Scanner) (kind : TokenKind) : Except Error Scanner := do
  let scanner ← (scanner.unwind (-1)).removeKey
  return { scanner.pushNext kind 3 with allowKey := false }

/-- The start of a flow collection, which may be a key. -/
def fetchFlowStart (scanner : Scanner) (kind : TokenKind) : Except Error Scanner := do
  let scanner ← scanner.saveKey
  return { scanner.pushNext kind 1 with depth := scanner.depth + 1, allowKey := true }

/-- The end of a flow collection. -/
def fetchFlowEnd (scanner : Scanner) (kind : TokenKind) : Except Error Scanner := do
  let scanner ← scanner.removeKey
  return { scanner.pushNext kind 1 with depth := scanner.depth - 1, allowKey := false }

/-- A comma between entries of a flow collection. -/
def fetchFlowEntry (scanner : Scanner) : Except Error Scanner := do
  let scanner ← scanner.removeKey
  return { scanner.pushNext .flowEntry 1 with allowKey := true }

/-- Opens a block collection at the cursor if it stands deeper than the present one. -/
def openBlock (scanner : Scanner) (kind : TokenKind) : Scanner :=
  match scanner.addIndent scanner.cursor.column with
  | (true, scanner) => scanner.pushHere kind
  | (false, scanner) => scanner

/-- A dash before an entry of a block sequence. -/
def fetchBlockEntry (scanner : Scanner) : Except Error Scanner := do
  if scanner.inBlock && !scanner.allowKey then scanner.cursor.fail .sequenceNotAllowed
  let scanner := if scanner.inBlock then scanner.openBlock .blockSequenceStart else scanner
  let scanner ← scanner.removeKey
  return { scanner.pushNext .blockEntry 1 with allowKey := true }

/-- A question mark before a key. -/
def fetchKey (scanner : Scanner) : Except Error Scanner := do
  if scanner.inBlock && !scanner.allowKey then scanner.cursor.fail .keyNotAllowed
  let scanner := if scanner.inBlock then scanner.openBlock .blockMappingStart else scanner
  let scanner ← scanner.removeKey
  return { scanner.pushNext .key 1 with allowKey := scanner.inBlock }

/-- Puts a token before the held token of a number. -/
def insertHeld (scanner : Scanner) (number : Nat) (token : Token) : Scanner :=
  let place := number - scanner.settled.length
  { scanner with held := scanner.held.take place ++ token :: scanner.held.drop place }

/-- A colon before a value. What was held back as a possible key is one; else the value has an
empty key or one behind a question mark. -/
def fetchValue (scanner : Scanner) : Except Error Scanner := do
  match scanner.key? with
  | some key =>
    let scanner := scanner.eraseKey.insertHeld key.number ⟨.key, key.mark, key.mark⟩
    let scanner :=
      if scanner.inBlock then
        match scanner.addIndent key.mark.column with
        | (true, scanner) =>
          scanner.insertHeld key.number ⟨.blockMappingStart, key.mark, key.mark⟩
        | (false, scanner) => scanner
      else scanner
    return { scanner.pushNext .value 1 with allowKey := false }
  | none =>
    if scanner.inBlock && !scanner.allowKey then scanner.cursor.fail .valueNotAllowed
    let scanner := if scanner.inBlock then scanner.openBlock .blockMappingStart else scanner
    let scanner ← { scanner with allowKey := scanner.inBlock }.removeKey
    return scanner.pushNext .value 1

/-- A token that may be a key, scanned from the cursor. -/
def fetchKeyLike (scanner : Scanner) (scan : Cursor → Except Error (TokenKind × Cursor)) :
    Except Error Scanner := do
  let scanner ← scanner.saveKey
  let (kind, behind) ← scan scanner.cursor
  return { scanner.push kind scanner.cursor.mark behind.mark with
    cursor := behind, allowKey := false }

/-- A literal or folded block, behind which a key may start. -/
def fetchBlock (scanner : Scanner) (folded : Bool) : Except Error Scanner := do
  let scanner ← { scanner with allowKey := true }.removeKey
  let (text, behind) ← scanBlock folded scanner.indent scanner.cursor
  return { scanner.push (.scalar text false) scanner.cursor.mark behind.mark with
    cursor := behind }

/-- A plain scalar; a key may start behind it if it passes the end of a line. -/
def fetchPlain (scanner : Scanner) : Except Error Scanner := do
  let scanner ← scanner.saveKey
  let ((text, passed), behind) := scanPlain (!scanner.inBlock) scanner.indent scanner.cursor
  return { scanner.push (.scalar text true) scanner.cursor.mark behind.mark with
    cursor := behind, allowKey := passed }

/-- Whether a plain scalar may start at the cursor. -/
def startsPlain (scanner : Scanner) (character : Char) : Bool :=
  let cursor := scanner.cursor
  !(isBlankOrBreak character || "-?:,[]\x7b\x7d#&*!|>'\"%@`".toList.contains character) ||
    (!cursor.endsOr 1 isBlankOrBreak &&
      (character == '-' || (scanner.inBlock && (character == '?' || character == ':'))))

/-- Passes what stands before the next token, and closes what ends before it. -/
def approach (scanner : Scanner) : Except Error Scanner := do
  let scanner := skipToToken (scanner.cursor.rest.length + 1) scanner
  let scanner ← scanner.dropStale
  return scanner.unwind scanner.cursor.column

/-- Scans the next token or tokens from the cursor. -/
def fetch (scanner : Scanner) : Except Error Scanner :=
  let cursor := scanner.cursor
  let blankNext := cursor.endsOr 1 isBlankOrBreak
  match cursor.head with
  | none => scanner.fetchEnd
  | some character =>
    if character = '%' ∧ cursor.column = 0 then scanner.fetchDirective
    else if cursor.column = 0 ∧ cursor.isDocumentMark '-' then
      scanner.fetchDocumentMark .documentStart
    else if cursor.column = 0 ∧ cursor.isDocumentMark '.' then
      scanner.fetchDocumentMark .documentEnd
    else if character = '[' then scanner.fetchFlowStart .flowSequenceStart
    else if character = '\x7b' then scanner.fetchFlowStart .flowMappingStart
    else if character = ']' then scanner.fetchFlowEnd .flowSequenceEnd
    else if character = '\x7d' then scanner.fetchFlowEnd .flowMappingEnd
    else if character = ',' then scanner.fetchFlowEntry
    else if character = '-' ∧ blankNext then scanner.fetchBlockEntry
    else if character = '?' ∧ (blankNext || !scanner.inBlock) then scanner.fetchKey
    else if character = ':' ∧ (blankNext || !scanner.inBlock) then scanner.fetchValue
    else if character = '*' then
      scanner.fetchKeyLike fun cursor =>
        (scanAnchorName cursor).map fun (name, behind) => (.alias name, behind)
    else if character = '&' then
      scanner.fetchKeyLike fun cursor =>
        (scanAnchorName cursor).map fun (name, behind) => (.anchor name, behind)
    else if character = '!' then scanner.fetchKeyLike scanTag
    else if character = '|' ∧ scanner.inBlock then scanner.fetchBlock false
    else if character = '>' ∧ scanner.inBlock then scanner.fetchBlock true
    else if character = '\'' ∨ character = '"' then
      scanner.fetchKeyLike fun cursor =>
        (scanQuoted (character == '"') cursor).map fun (text, behind) =>
          (.scalar text false, behind)
    else if scanner.startsPlain character then scanner.fetchPlain
    else cursor.fail (.cannotStart character)

/-- How many held tokens come before every possible key. -/
def settledCount (scanner : Scanner) : Nat :=
  scanner.keys.foldl (fun count entry => min count (entry.2.number - scanner.settled.length))
    scanner.held.length

/-- Settles the held tokens that come before every possible key. At the end all are. -/
def settle (scanner : Scanner) : Except Error Scanner := do
  if scanner.done then
    return { scanner with settled := scanner.held.reverse ++ scanner.settled, held := [] }
  let scanner ← scanner.dropStale
  let count := scanner.settledCount
  return { scanner with
    settled := (scanner.held.take count).reverse ++ scanner.settled
    held := scanner.held.drop count }

/-- How many characters of a token are looked at to tell what it is, beyond its first one. -/
def lookahead (cursor : Cursor) : Nat :=
  match cursor.head with
  | some '-' => if cursor.column = 0 then 2 else 1
  | some '.' => if cursor.column = 0 then 2 else 0
  | some '!' =>
    if cursor.peek 1 = some '<' then 1
    else ((cursor.rest.drop 1).takeWhile fun character =>
      !(isSpaceOrBreak character || character == '!')).length + 1
  | some character => if "?:,@%|>`\t".toList.contains character then 1 else 0
  | none => 0

/-- Whether the lines that a token goes over are looked at for marks between documents. -/
def looksForMarks (cursor : Cursor) : Bool :=
  !cursor.headIs fun character => "|>%".toList.contains character

/-- The last position that is looked at before a token that starts at a cursor is done, or fails,
at a mark. -/
def reach (start : Cursor) (stop : Mark) : Nat :=
  let lineStart := stop.index - stop.column
  let marks := if looksForMarks start && start.mark.line < stop.line then lineStart + 2 else 0
  max (start.mark.index + lookahead start) (max stop.index marks)

/-- The last position that is looked at for a fetched token. A colon behind plain text is looked
behind. -/
def reachOf (start next : Scanner) : Nat :=
  let colon := start.startsPlain (start.cursor.head.getD ' ') && next.cursor.head == some ':'
  reach start.cursor next.cursor.mark + if colon then 1 else 0

/-- Scans to the end or to a fault. Looking at the first position that cannot be read is one, and
comes before what would be found by it. -/
def run (horizon : Option Horizon) : (fuel : Nat) → Scanner → List Token × Option Error
  | 0, scanner => (scanner.settled.reverse, none)
  | fuel + 1, scanner =>
    if scanner.done then (scanner.settled.reverse, none)
    else
      let upTo (position : Nat) (error : Error) : List Token × Option Error :=
        (scanner.settled.reverse, some ((hidden? horizon position).getD error))
      match scanner.approach with
      | .error error => upTo (error.mark.elim 0 Mark.index) error
      | .ok near =>
        match near.fetch with
        | .error error => upTo (reach near.cursor (error.mark.getD near.cursor.mark)) error
        | .ok next =>
          match hidden? horizon (reachOf near next) with
          | some error => (scanner.settled.reverse, some error)
          | none =>
            match next.settle with
            | .error error => (next.settled.reverse, some error)
            | .ok settled => run horizon fuel settled

end Scanner

/-- The tokens of a text, up to its end or to a fault. -/
def tokens (text : List Char) (horizon : Option Horizon) : List Token × Option Error :=
  Scanner.run horizon (text.length + 2) (Scanner.start text)

end Multitarget.Yaml
