import Multitarget.Text.Blank
import Multitarget.Text.Integer
import Multitarget.Text.Lines
import Multitarget.Text.Printable
import Multitarget.Text.WordCharacter

/-!
# Handlers

A tag can name a handler of an event instead of a style, with arguments in
parentheses behind the name, or with a value alone. On a plain console nothing is
handled, but the arguments are read where the tag is closed: they must be literals
in the notation of expressions, and what is wrong with them is told.
-/

namespace Multitarget.Console.Handler

/-- What can be wrong with arguments. -/
inductive Problem where
  | invalid
  /-- Two operands stand side by side. -/
  | comma
  /-- A name is assigned a value. -/
  | assignment
  /-- What is no name is assigned a value. -/
  | assigned (kind : String)
  /-- A key has no value. -/
  | valueMissing
  /-- A key has no colon. -/
  | colonMissing
  | unclosed (opening : Char)
  | unmatched (closing : Char)
  | mismatched (closing opening : Char)
  | unterminated (triple : Bool) (line : Nat)
  /-- A numeral of a base is none. -/
  | numeral (base : String)
  | leadingZero
  | character (character : Char)
  | continuation
  /-- A value that can change stands for a key or for a member of a set. -/
  | unhashable (kind : String)
  /-- The arguments are an expression, but no literal. -/
  | noLiteral
  deriving DecidableEq, Repr

namespace Problem

/-- Whether the notation is at fault, not the value. -/
def isSyntax : Problem → Bool
  | .unhashable _ => false
  | .noLiteral => false
  | _ => true

/-- The code point of a character in capital hexadecimal digits, at least four. -/
def codePoint (character : Char) : String :=
  let code := character.toNat
  let width := if code < 0x10000 then 4 else if code < 0x100000 then 5 else 6
  "U+" ++ String.ofList ((Text.hexadecimal width code).map Char.toUpper)

/-- The wording of a problem. -/
def message : Problem → String
  | .invalid => "invalid syntax"
  | .comma => "invalid syntax. Perhaps you forgot a comma?"
  | .assignment => "invalid syntax. Maybe you meant '==' or ':=' instead of '='?"
  | .assigned kind => "cannot assign to " ++ kind ++ " here. Maybe you meant '==' instead of '='?"
  | .valueMissing => "expression expected after dictionary key and ':'"
  | .colonMissing => "':' expected after dictionary key"
  | .unclosed opening => "'" ++ opening.toString ++ "' was never closed"
  | .unmatched closing => "unmatched '" ++ closing.toString ++ "'"
  | .mismatched closing opening =>
    "closing parenthesis '" ++ closing.toString ++ "' does not match opening parenthesis '"
      ++ opening.toString ++ "'"
  | .unterminated triple line =>
    "unterminated " ++ (if triple then "triple-quoted " else "")
      ++ "string literal (detected at line " ++ toString line ++ ")"
  | .numeral base => "invalid " ++ base ++ " literal"
  | .leadingZero =>
    "leading zeros in decimal integer literals are not permitted; "
      ++ "use an 0o prefix for octal integers"
  | .character wrong =>
    if Text.isPrintable wrong then
      "invalid character '" ++ wrong.toString ++ "' (" ++ codePoint wrong ++ ")"
    else "invalid non-printable character " ++ codePoint wrong
  | .continuation => "unexpected character after line continuation character"
  | .unhashable kind => "unhashable type: '" ++ kind ++ "'"
  | .noLiteral => "malformed node or string"

end Problem

/-! ## Tokens -/

/-- A token of an expression. -/
inductive Token where
  | number
  | text
  | name (word : String)
  /-- A word that stands for a value. -/
  | constant
  | ellipsis
  /-- A word with a meaning of its own. -/
  | reserved (word : String)
  | sign (characters : String)
  deriving DecidableEq, Repr

/-- Words that stand for values. -/
def constants : List String := ["True", "False", "None"]

/-- Words with a meaning of their own. -/
def reservedWords : List String :=
  ["and", "as", "assert", "async", "await", "break", "class", "continue", "def", "del", "elif",
   "else", "except", "finally", "for", "from", "global", "if", "import", "in", "is", "lambda",
   "nonlocal", "not", "or", "pass", "raise", "return", "try", "while", "with", "yield"]

/-- The token of a word. -/
def wordToken (word : String) : Token :=
  if constants.contains word then .constant
  else if reservedWords.contains word then .reserved word
  else .name word

/-- The words that can stand before the quote of a text. -/
def textMarks : List String := ["r", "u", "b", "f", "br", "rb", "fr", "rf"]

/-- Signs of several characters, the longer ones first. -/
def longSigns : List String :=
  ["**=", "//=", ">>=", "<<=", "!=", "%=", "&=", "**", "*=", "+=", "-=", "->", "//", "/=", ":=",
   "<<", "<=", "==", ">=", ">>", "@=", "^=", "|="]

/-- Whether a character can continue a word. -/
def continuesWord (character : Char) : Bool :=
  Text.isWord character

/-- What follows the digits of a numeral, which single underscores may group. -/
def afterDigits (isDigit : Char → Bool) : List Char → Option (List Char)
  | [] => none
  | [digit] => if isDigit digit then some [] else none
  | digit :: next :: rest =>
    if !isDigit digit then none
    else if next = '_' then afterDigits isDigit rest
    else if isDigit next then afterDigits isDigit (next :: rest)
    else some (next :: rest)

/-- What follows a numeral of a base that is marked by a letter. -/
def afterMarked (base : String) (isDigit : Char → Bool) (text : List Char) :
    Except Problem (List Char) :=
  let digits := match text with
    | '_' :: digits => digits
    | digits => digits
  match afterDigits isDigit digits with
  | some rest => if rest.head?.any continuesWord then .error (.numeral base) else .ok rest
  | none => .error (.numeral base)

/-- What follows the exponent of a decimal numeral, if there is one. -/
def afterExponent (text : List Char) : Option (List Char) :=
  match text with
  | mark :: sign :: rest =>
    if mark != 'e' && mark != 'E' then none
    else if sign = '+' ∨ sign = '-' then afterDigits Text.isDigit rest
    else afterDigits Text.isDigit (sign :: rest)
  | _ => none

/-- What follows a decimal numeral. -/
def afterDecimal (text : List Char) : Except Problem (List Char) :=
  let whole := afterDigits Text.isDigit text
  match whole, text with
  | none, '.' :: _ | some _, _ =>
    let rest := whole.getD text
    let digits := text.take (text.length - rest.length)
    let (fraction, rest) := match rest with
      | '.' :: rest => (true, (afterDigits Text.isDigit rest).getD rest)
      | rest => (false, rest)
    let (fraction, rest) := match afterExponent rest with
      | some rest => (true, rest)
      | none => (fraction, rest)
    let (fraction, rest) := match rest with
      | 'j' :: rest => (true, rest)
      | 'J' :: rest => (true, rest)
      | rest => (fraction, rest)
    if !fraction && digits.head? == some '0' &&
        digits.any (fun digit => digit != '0' && digit != '_') then .error .leadingZero
    else if rest.head?.any continuesWord then .error (.numeral "decimal")
    else .ok rest
  | none, _ => .error (.numeral "decimal")

/-- What follows a numeral. -/
def afterNumeral (text : List Char) : Except Problem (List Char) :=
  match text with
  | '0' :: mark :: rest =>
    match mark.toLower with
    | 'x' => afterMarked "hexadecimal" Text.isHexDigit rest
    | 'o' => afterMarked "octal" (fun digit => '0' ≤ digit && digit ≤ '7') rest
    | 'b' => afterMarked "binary" (fun digit => digit = '0' || digit = '1') rest
    | _ => afterDecimal text
  | _ => afterDecimal text

/-- What follows a text behind its opening quote, and the number of its last line. -/
def afterText (quote : Char) (triple : Bool) (line : Nat) :
    List Char → Except Problem (List Char × Nat)
  | [] => .error (.unterminated triple line)
  | ['\\'] => .error (.unterminated triple line)
  | '\\' :: next :: rest => afterText quote triple (if next = '\n' then line + 1 else line) rest
  | character :: rest =>
    if character = quote then
      if !triple then .ok (rest, line)
      else if [quote, quote].isPrefixOf rest then .ok (rest.drop 2, line)
      else afterText quote triple line rest
    else if character = '\n' then
      if triple then afterText quote triple (line + 1) rest
      else .error (.unterminated triple line)
    else afterText quote triple line rest

/-- What follows a text from its opening quote on, and the number of its last line. -/
def afterQuoted (line : Nat) : List Char → Except Problem (List Char × Nat)
  | [] => .error (.unterminated false line)
  | quote :: rest =>
    if [quote, quote].isPrefixOf rest then afterText quote true line (rest.drop 2)
    else afterText quote false line rest

/-- Whether a character opens and closes texts. -/
def isQuote (character : Char) : Bool :=
  character = '"' || character = '\''

/-- The brackets that are open behind a sign, the latest first. -/
def afterBracket (brackets : List Char) (sign : Char) : Except Problem (List Char) :=
  if sign = '(' ∨ sign = '\x7b' then .ok (sign :: brackets)
  else if sign = ')' ∨ sign = '\x7d' then
    match brackets with
    | [] => .error (.unmatched sign)
    | opening :: others =>
      if (opening = '(') = (sign = ')') then .ok others else .error (.mismatched sign opening)
  else .ok brackets

/-- The tokens of a text in a line, inside brackets. A line ends inside brackets without a sign. The
fuel is more than the characters. -/
def tokens (fuel line : Nat) (brackets : List Char) (text : List Char) :
    Except Problem (List Token) :=
  match fuel with
  | 0 => .ok []
  | fuel + 1 =>
    match text with
    | [] => .ok []
    | character :: rest =>
      if character = ' ' ∨ character = '\t' ∨ character = '\x0c' then tokens fuel line brackets rest
      else if character = '#' then
        tokens fuel line brackets (rest.dropWhile (· != '\n'))
      else if character = '\n' then
        (tokens fuel (line + 1) brackets rest).map fun after =>
          if brackets.isEmpty then .sign "\n" :: after else after
      else if character = '\\' then
        match rest with
        | '\n' :: rest => tokens fuel (line + 1) brackets rest
        | _ => .error .continuation
      else if isQuote character then do
        let (rest, line) ← afterQuoted line text
        return .text :: (← tokens fuel line brackets rest)
      else if Text.isDigit character ||
          (character = '.' && rest.head?.any Text.isDigit) then do
        return .number :: (← tokens fuel line brackets (← afterNumeral text))
      else if continuesWord character then do
        let word := String.ofList (text.takeWhile continuesWord)
        let rest := text.dropWhile continuesWord
        if rest.head?.any isQuote && textMarks.contains (word.map Char.toLower) then
          let (rest, line) ← afterQuoted line rest
          return .text :: (← tokens fuel line brackets rest)
        else return wordToken word :: (← tokens fuel line brackets rest)
      else if 0x80 ≤ character.toNat ∨ !Text.isPrintable character then
        .error (.character character)
      else if ['.', '.', '.'].isPrefixOf text then do
        return .ellipsis :: (← tokens fuel line brackets (rest.drop 2))
      else
        match longSigns.find? fun sign => sign.toList.isPrefixOf text with
        | some sign => do
          return .sign sign :: (← tokens fuel line brackets (text.drop sign.length))
        | none => do
          let brackets ← afterBracket brackets character
          return .sign character.toString :: (← tokens fuel line brackets rest)

/-! ## Expressions -/

/-- What an operand, or an expression so far, is. -/
inductive Shape where
  /-- Nothing yet. -/
  | nothing
  | literal
  | ellipsis
  | name
  | attribute
  | call
  | mapping
  | collection
  | arithmetic
  /-- Anything that cannot be assigned to and is never told by its kind. -/
  | other
  deriving DecidableEq, Repr

namespace Shape

/-- An expression behind which an operand stands. -/
def follow (before operand : Shape) : Shape :=
  match before with
  | .nothing => operand
  | before => before

/-- An expression with an operator behind it; only arithmetic is told by its kind. -/
def operate (shape : Shape) (arithmetic : Bool) : Shape :=
  if shape = .other || !arithmetic then .other else .arithmetic

/-- An expression with a member or arguments behind it. -/
def extend (shape part : Shape) : Shape :=
  match shape with
  | .arithmetic => .arithmetic
  | .other => .other
  | _ => part

/-- What is wrong with assigning to an expression. -/
def assigned : Shape → Problem
  | .name => .assignment
  | .literal => .assigned "literal"
  | .ellipsis => .assigned "ellipsis"
  | .attribute => .assigned "attribute"
  | .call => .assigned "function call"
  | .mapping => .assigned "dict literal"
  | .collection => .assigned "set display"
  | .arithmetic => .assigned "expression"
  | _ => .invalid

end Shape

/-- What an expression needs next. -/
inductive Need where
  /-- An operand, or the end of what encloses it. -/
  | item
  | operand
  /-- The value of a key. -/
  | value
  | member
  /-- Nothing: an operand is complete. -/
  | nothing
  deriving DecidableEq, Repr

/-- What an open bracket encloses. -/
structure Frame where
  opening : Char
  /-- Whether the bracket opens the arguments of a call. -/
  call : Bool
  /-- What stands before the bracket in its expression. -/
  before : Shape
  /-- Whether the bracket stands in the value of a key. -/
  valued : Bool
  /-- Whether the bracket encloses keys with values. -/
  keyed : Bool
  /-- Whether the bracket encloses a comma. -/
  divided : Bool
  deriving DecidableEq, Repr

/-- Whether keys with values can stand in the bracket. -/
def Frame.takesKeys (frame : Frame) : Bool :=
  frame.opening = '\x7b' && (frame.keyed || !frame.divided)

/-- How far an expression is read. -/
structure State where
  frames : List Frame
  need : Need
  shape : Shape
  /-- The name that is the whole expression so far. -/
  alone : Option String
  /-- Whether the last token is a text. -/
  ofText : Bool
  /-- Whether the expression is the value of a key. -/
  valued : Bool
  /-- Whether all so far is literal. -/
  literal : Bool
  /-- A value that cannot be a key or a member of a set, by its kind. -/
  unhashable : Option String
  deriving DecidableEq, Repr

namespace State

/-- The state before an expression. -/
def start : State := ⟨[], .operand, .nothing, none, false, false, true, none⟩

/-- The state behind an operand. -/
def complete (state : State) (shape : Shape) : State :=
  { state with
    need := .nothing, shape := state.shape.follow shape, alone := none, ofText := false }

/-- The state behind an operator. -/
def operate (state : State) (arithmetic literal : Bool) : State :=
  { state with
    need := .operand, shape := state.shape.operate arithmetic, alone := none, ofText := false,
    literal := state.literal && literal }

/-- The state behind an opening bracket. -/
def enter (state : State) (opening : Char) (call : Bool) : State :=
  { state with
    frames := ⟨opening, call, state.shape, state.valued, false, false⟩ :: state.frames, need := .item,
    shape := .nothing, alone := none, ofText := false, valued := false,
    literal := state.literal && !call }

/-- The state with the innermost bracket changed. -/
def mark (state : State) (change : Frame → Frame) : State :=
  match state.frames with
  | [] => state
  | frame :: frames => { state with frames := change frame :: frames }

/-- The state behind a comma. -/
def separate (state : State) : State :=
  { state.mark (fun frame => { frame with divided := true }) with
    need := .item, shape := .nothing, alone := none, ofText := false, valued := false }

/-- The state behind a key and its colon. -/
def assign (state : State) : State :=
  { state.mark (fun frame => { frame with keyed := true }) with
    need := .value, shape := .nothing, alone := none, ofText := false, valued := true }

/-- Whether the expression stands for a key that needs a value. -/
def lacksValue (state : State) : Bool :=
  !state.valued && state.frames.head?.any Frame.keyed

/-- The state behind a closing bracket. A mapping and a set can be neither a key nor a member of a
set. -/
def leave (state : State) : Except Problem State :=
  match state.frames with
  | [] => .error .invalid
  | frame :: frames =>
    let mapping := frame.keyed || (!frame.divided && state.need = .item)
    let shape : Shape :=
      if frame.call then .call
      else if frame.opening = '(' then .other
      else if mapping then .mapping
      else .collection
    let inside := frames.head?.any fun outer => outer.opening = '\x7b'
    let kind := if mapping then "dict" else "set"
    let unhashable :=
      if frame.opening = '\x7b' && inside && !frame.valued then state.unhashable <|> some kind
      else state.unhashable
    .ok { state with
      frames, need := .nothing, alone := none, ofText := false, valued := frame.valued, unhashable,
      shape := if frame.call then frame.before.extend .call else frame.before.follow shape }

/-- What is wrong where the tokens end too early. -/
def ended (state : State) : Problem :=
  match state.frames with
  | frame :: _ => .unclosed frame.opening
  | [] => .invalid

end State

/-- Signs between operands; the flag tells arithmetic, and a second one what literals may hold. -/
def operators : List (String × Bool × Bool) :=
  [("+", true, true), ("-", true, true), ("*", true, false), ("/", true, false),
   ("//", true, false), ("%", true, false), ("@", true, false), ("**", true, false),
   ("<<", true, false), (">>", true, false), ("&", true, false), ("|", true, false),
   ("^", true, false), ("<", false, false), (">", false, false), ("<=", false, false),
   (">=", false, false), ("==", false, false), ("!=", false, false)]

/-- Words between operands. -/
def operatorWords : List String := ["and", "or", "in", "is"]

/-- Words that are names only where no operand follows them. -/
def weakWords : List String := ["match", "case", "_"]

/-- Whether a token can start an operand behind another one. -/
def startsOperand : Token → Bool
  | .sign sign => sign == "\x7b" || sign == "~"
  | .reserved word => word == "not"
  | _ => true

/-- The state behind a token where an operand is due. -/
def readOperand (state : State) : Token → Except Problem State
  | .number => .ok (state.complete .literal)
  | .text => .ok { state.complete .literal with ofText := true }
  | .constant => .ok (state.complete .other)
  | .ellipsis => .ok (state.complete .ellipsis)
  | .name word =>
    .ok { state.complete .name with
      alone := if state.shape = .nothing then some word else none, literal := false }
  | .reserved "not" => .ok (state.operate false false)
  | .reserved _ => .error .invalid
  | .sign sign =>
    match sign with
    | "(" => .ok (state.enter '(' false)
    | "\x7b" => .ok (state.enter '\x7b' false)
    | "+" => .ok (state.operate true true)
    | "-" => .ok (state.operate true true)
    | "~" => .ok (state.operate true false)
    | ")" => if state.need = .item ∧ state.frames ≠ [] then state.leave else .error .invalid
    | "\x7d" =>
      if state.need = .value then .error .valueMissing
      else if state.need = .item ∧ state.frames ≠ [] then state.leave
      else .error .invalid
    | "," => if state.need = .value then .error .valueMissing else .error .invalid
    | _ => .error .invalid

/-- What is wrong with an operand behind another one; so many tokens follow it. -/
def besideProblem (state : State) (token : Token) (following : Nat) : Problem :=
  if state.frames = [] || (state.alone.isSome && token = .text) ||
      state.alone.any weakWords.contains then .invalid
  else if following = 0 then state.ended
  else .comma

/-- What is wrong with an assignment, given the tokens behind its sign. -/
def assignmentProblem (state : State) (following : List Token) : Problem :=
  match following with
  | value :: rest =>
    let starts := startsOperand value || value = .sign "(" || value = .sign "-" || value = .sign "+"
    if state.frames = [] || !starts || rest.head? == some (.sign "=") then .invalid
    else if rest.isEmpty then state.ended
    else state.shape.assigned
  | [] => state.ended

/-- The state behind a token that follows a complete operand, and other tokens behind it. -/
def readFurther (state : State) (token : Token) (following : List Token) :
    Except Problem State :=
  match token with
  | .sign sign =>
    match sign with
    | "," => if state.lacksValue then .error .colonMissing else .ok state.separate
    | "." => .ok { state with need := .member }
    | "(" => .ok (state.enter '(' true)
    | ")" => state.leave
    | "\x7d" => if state.lacksValue then .error .colonMissing else state.leave
    | ":" =>
      if !state.valued && state.frames.head?.any Frame.takesKeys then .ok state.assign
      else .error .invalid
    | "=" => .error (assignmentProblem state following)
    | _ =>
      match operators.find? fun entry => entry.1 == sign with
      | some (_, arithmetic, literal) => .ok (state.operate arithmetic literal)
      | none =>
        if startsOperand token then .error (besideProblem state token following.length)
        else .error .invalid
  | .reserved word =>
    if operatorWords.contains word then .ok (state.operate false false)
    else if word = "not" then
      .error (if following.isEmpty || following.head?.any fun next => !startsOperand next then
        .invalid else besideProblem state token following.length)
    else .error .invalid
  | .text =>
    if state.ofText then .ok state else .error (besideProblem state token following.length)
  | _ => .error (besideProblem state token following.length)

/-- The state behind tokens. -/
def readTokens (state : State) : List Token → Except Problem State
  | [] => .ok state
  | token :: rest =>
    let next : Except Problem State :=
      match state.need with
      | .nothing => readFurther state token rest
      | .member =>
        match token with
        | .name _ =>
          .ok { state with
            need := .nothing, shape := state.shape.extend .attribute, alone := none,
            literal := false }
        | _ => .error .invalid
      | _ => readOperand state token
    match next with
    | .ok state => readTokens state rest
    | .error problem => .error problem

/-- What is wrong with a state behind all tokens. -/
def endProblem? (state : State) : Option Problem :=
  if state.frames ≠ [] then some state.ended
  else if state.need = .nothing ∨ state.need = .item then
    match state.unhashable with
    | some kind => some (.unhashable kind)
    | none => if state.literal then none else some .noLiteral
  else some .invalid

/-- What is wrong with a literal. -/
def literalProblem? (text : List Char) : Option Problem :=
  match tokens (text.length + 1) 1 [] text with
  | .error problem => some problem
  | .ok tokens =>
    match readTokens .start tokens with
    | .error problem => some problem
    | .ok state => endProblem? state

/-! ## Parameters -/

/-- What is read of the parameters of a tag: the arguments behind the name of a handler, nothing for
a name alone, or all of them. -/
def arguments (parameters : List Char) : List Char :=
  let trimmed := Text.trimWhile Text.isBlank parameters
  match trimmed.dropWhile fun character => continuesWord character || character = '.' with
  | [] => ['(', ')']
  | '(' :: rest =>
    if rest.getLast? = some ')' && !rest.contains '\n' then '(' :: rest else trimmed
  | _ => trimmed

end Multitarget.Console.Handler
