import Multitarget.Console.Handler
import Multitarget.Console.Layout
import Multitarget.Console.Style
import Multitarget.Text.Quoted

/-!
# Markup

Tags in square brackets style what follows them. On a plain console they vanish,
but a closing tag must have something to close, and styles and handlers must be
written as such. A backslash before a tag makes it plain text; escaping puts one
there. A tag ends at the first closing bracket, with no opening bracket before it.
-/

namespace Multitarget.Console.Markup

/-- What a tag starts with behind its bracket. -/
def isTagStart (character : Char) : Bool :=
  ('a' ≤ character && character ≤ 'z') || character = '#' || character = '/' || character = '@'

/-- The characters before the first closing bracket, if no opening one comes before it. -/
def untilBracket : List Char → Option (List Char)
  | [] => none
  | character :: rest =>
    if character = ']' then some []
    else if character = '[' then none
    else (untilBracket rest).map (character :: ·)

/-- The inside of a tag, given the text behind its opening bracket. -/
def tagInside? : List Char → Option (List Char)
  | [] => none
  | character :: rest =>
    if isTagStart character then (untilBracket rest).map (character :: ·) else none

/-! ## Escaping -/

/-- Escapes what looks like a tag; `run` backslashes stand before the text, and `skip` characters
belong to a tag that was escaped. -/
def escapeFrom (run skip : Nat) : List Char → List Char
  | [] => List.replicate run '\\'
  | character :: rest =>
    match skip with
    | skip + 1 => character :: escapeFrom 0 skip rest
    | 0 =>
      if character = '\\' then escapeFrom (run + 1) 0 rest
      else if character = '[' then
        match tagInside? rest with
        | some inside =>
          List.replicate (2 * run + 1) '\\' ++ '[' :: escapeFrom 0 (inside.length + 1) rest
        | none => List.replicate run '\\' ++ '[' :: escapeFrom 0 0 rest
      else List.replicate run '\\' ++ character :: escapeFrom 0 0 rest

/-- Whether a text ends in exactly one backslash. -/
def endsInBackslash (text : List Char) : Bool :=
  match text.reverse with
  | '\\' :: '\\' :: _ => false
  | '\\' :: _ => true
  | _ => false

/-- The text with what looks like a tag escaped. A single backslash at the end is doubled. -/
def escape (text : List Char) : List Char :=
  let escaped := escapeFrom 0 0 text
  if endsInBackslash escaped then escaped ++ ['\\'] else escaped

/-! ## Reading -/

/-- A piece of markup: text, or a tag with its position and inside. -/
inductive Piece where
  | text (characters : List Char)
  | tag (position : Nat) (inside : List Char)
  deriving DecidableEq, Repr

/-- The pieces of a markup; `run` backslashes stand before it, and `skip` characters belong to a
tag that was read. Two backslashes before a tag mean one, and one makes the tag plain text; of
those before another bracket one is dropped. -/
def pieces (position run skip : Nat) : List Char → List Piece
  | [] => [.text (List.replicate run '\\')]
  | character :: rest =>
    match skip with
    | skip + 1 => pieces (position + 1) 0 skip rest
    | 0 =>
      if character = '\\' then pieces (position + 1) (run + 1) 0 rest
      else if character = '[' then
        match tagInside? rest with
        | some inside =>
          let after := pieces (position + 1) 0 (inside.length + 1) rest
          let before := List.replicate (run / 2) '\\'
          if run % 2 = 1 then .text (before ++ '[' :: (inside ++ [']'])) :: after
          else .text before :: .tag position inside :: after
        | none =>
          .text (List.replicate (run - 1) '\\' ++ ['[']) :: pieces (position + 1) 0 0 rest
      else
        .text (List.replicate run '\\' ++ [character]) :: pieces (position + 1) 0 0 rest

/-- Why a markup cannot be read. -/
inductive Error where
  /-- A closing tag names a style that is not open. -/
  | notOpen (inside : String) (position : Nat)
  /-- A closing tag without a name closes nothing. -/
  | nothingOpen (position : Nat)
  /-- What was read of the parameters of a handler is no literal. -/
  | handler (arguments parameters : String) (problem : Handler.Problem)
  /-- A part of a colour is no number. -/
  | color (fault : PartFault)
  deriving DecidableEq, Repr

/-- The wording of an error. -/
def Error.message : Error → String
  | .notOpen inside position =>
    "closing tag '[" ++ inside ++ "]' at position " ++ toString position ++
      " doesn't match any open tag"
  | .nothingOpen position =>
    "closing tag '[/]' at position " ++ toString position ++ " has nothing to close"
  | .handler arguments parameters problem =>
    "error parsing " ++
      (if problem.isSyntax then Text.quoted arguments ++ " in " else "") ++
      Text.quoted parameters ++ "; " ++ problem.message
  | .color fault => fault.message

/-- A part of a text with a style: where it starts, where it stops, and how the style is written. -/
structure Span where
  start : Nat
  stop : Nat
  style : String
  deriving DecidableEq, Repr

/-- A tag that is open: the normal form of its name, what follows its equals sign, and where its
text starts. -/
structure Opened where
  name : String
  parameters : Option (List Char)
  start : Nat
  deriving DecidableEq, Repr

/-- The span of a tag whose text stops at a place. Parameters are part of the style. -/
def Opened.span (opened : Opened) (stop : Nat) : Span where
  start := opened.start
  stop
  style :=
    match opened.parameters with
    | some parameters => opened.name ++ " " ++ String.ofList parameters
    | none => opened.name

/-- The name of a tag, and what follows its equals sign. -/
def divideTag (inside : List Char) : List Char × Option (List Char) :=
  match inside.dropWhile (· != '=') with
  | [] => (inside, none)
  | _ :: parameters => (inside.takeWhile (· != '='), some parameters)

/-- The spans of a tag that is closed: one if it is a style, none if it is a handler, whose
parameters are read instead. -/
def Opened.close (opened : Opened) (stop : Nat) : Except Error (List Span) :=
  if opened.name.startsWith "@" then
    match opened.parameters with
    | none => .ok []
    | some [] => .ok []
    | some parameters =>
      let arguments := Handler.arguments parameters
      match Handler.literalProblem? arguments with
      | some problem =>
        .error (.handler (String.ofList arguments) (String.ofList parameters) problem)
      | none => .ok []
  else .ok [opened.span stop]

/-- The normal form of a name. -/
def normalName (name : List Char) : Except Error String :=
  match Style.normalize (String.ofList name) with
  | .ok name => .ok name
  | .error fault => .error (.color fault)

/-- The tags that are open behind a closing tag, the latest first, and the one that it closes: the
latest of its name, or the latest at all if it has none. -/
def closed (position : Nat) (inside name : List Char) (opened : List Opened) :
    Except Error (Opened × List Opened) := do
  let name := Text.trimWhile Text.isBlank name
  if name.isEmpty then
    match opened with
    | [] => .error (.nothingOpen position)
    | latest :: others => .ok (latest, others)
  else
    let name ← normalName name
    match opened.find? fun other => other.name == name with
    | some found => .ok (found, opened.eraseP fun other => other.name == name)
    | none => .error (.notOpen (String.ofList inside) position)

/-- The tags that are open behind a tag at a place of the text, and the spans that end there. -/
def afterTag (place position : Nat) (inside : List Char) (opened : List Opened) :
    Except Error (List Opened × List Span) :=
  match divideTag inside with
  | ('/' :: name, _) => do
    let (latest, others) ← closed position inside name opened
    return (others, ← latest.close place)
  | (name, parameters) => do
    return (⟨← normalName name, parameters, place⟩ :: opened, [])

/-- The text and the spans of pieces at a place of the text, behind tags that are open. -/
def readPieces (place : Nat) (opened : List Opened) :
    List Piece → Except Error (List Char × List Span)
  | [] => .ok ([], opened.map fun tag => tag.span place)
  | .text characters :: rest =>
    let shown := characters.filter fun character => !isSuppressed character
    match readPieces (place + shown.length) opened rest with
    | .ok (text, spans) => .ok (shown ++ text, spans)
    | .error error => .error error
  | .tag position inside :: rest =>
    match afterTag place position inside opened with
    | .ok (opened, ended) =>
      match readPieces place opened rest with
      | .ok (text, spans) => .ok (text, ended ++ spans)
      | .error error => .error error
    | .error error => .error error

/-- The text that a markup shows, and its spans. -/
def read (markup : List Char) : Except Error (List Char × List Span) :=
  readPieces 0 [] (pieces 0 0 0 markup)

/-! ## Styles of a text -/

/-- Whether some of a span is left where a text is laid out. An empty span stays only with a text
that is one undivided line. -/
def Span.isLeft (span : Span) (whole : Bool) (text : List Char) : Bool :=
  if span.start < span.stop then
    ((text.drop span.start).take (span.stop - span.start)).any fun character => character != '\n'
  else
    !text.contains '\n' && !text.contains '\t' &&
      (whole || ((divide text).length == 1 &&
        (fit text == text || decide (span.start < (fit text).length))))

/-- The fault of the first style of a text that has one. -/
def styleFault? (whole : Bool) (text : List Char) (spans : List Span) : Option PartFault :=
  (spans.reverse.mergeSort fun first second => first.start ≤ second.start).findSome? fun span =>
    if span.isLeft whole text then
      match Style.read span.style with
      | .error fault => some fault
      | .ok _ => none
    else none

/-- The text of a markup as the console shows it without styles; `whole` leaves its lines
undivided. -/
def plain (whole : Bool) (markup : List Char) : Except Error (List Char) := do
  let (text, spans) ← read markup
  match styleFault? whole text spans with
  | some fault => .error (.color fault)
  | none => .ok (layout whole text)

end Multitarget.Console.Markup
