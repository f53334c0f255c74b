import Multitarget.Console.ColorName
import Multitarget.Text.Blank
import Multitarget.Text.DecimalDigit
import Multitarget.Text.Integer
import Multitarget.Text.Lines
import Multitarget.Text.LowerCase

/-!
# Styles

A style is written as words for attributes, colours and a link, in any order and
in any case. Two texts mean the same style if their normal forms are equal; a
text that is no style stands for itself in lower case. A colour whose parts are
no numbers is a fault.
-/

namespace Multitarget.Console

/-- The attributes of text with the words that switch them on, in the order in which normal forms
list them. -/
def attributeWords : List (String × List String) :=
  [("bold", ["bold", "b"]), ("dim", ["dim", "d"]), ("italic", ["italic", "i"]),
   ("underline", ["underline", "u"]), ("blink", ["blink"]), ("blink2", ["blink2"]),
   ("reverse", ["reverse", "r"]), ("conceal", ["conceal", "c"]), ("strike", ["strike", "s"]),
   ("underline2", ["underline2", "uu"]), ("frame", ["frame"]), ("encircle", ["encircle"]),
   ("overline", ["overline", "o"])]

/-- The attribute that a word switches on. -/
def attributeOf? (word : String) : Option String :=
  (attributeWords.find? fun entry => entry.2.contains word).map Prod.fst

/-- The text between two ends, if it has them. -/
def between? (opening closing : String) (text : List Char) : Option (List Char) :=
  if opening.toList.isPrefixOf text && closing.toList.isSuffixOf text &&
      opening.length + closing.length ≤ text.length then
    some ((text.drop opening.length).take (text.length - opening.length - closing.length))
  else none

/-- Whether a text is a number that fits a byte. -/
def isByteNumber (text : List Char) : Bool :=
  match Text.numeral 10 text with
  | some number => !text.isEmpty && text.all Text.isDigit && decide (number ≤ 255)
  | none => false

/-- Why a part of a colour is no number. -/
inductive PartFault where
  | empty
  | long (digits : Nat)
  deriving DecidableEq, Repr

/-- The wording of a fault of a part. -/
def PartFault.message : PartFault → String
  | .empty => "invalid literal for int() with base 10: ''"
  | .long digits => Text.longNumeralMessage digits

/-- The number that a part of a colour writes in digits. -/
def partNumber (digits : List Char) : Except PartFault Nat :=
  if digits.isEmpty then .error .empty
  else if Text.numeralLimit < digits.length then .error (.long digits.length)
  else .ok (digits.foldl (fun sum digit => 10 * sum + (Text.decimalDigit digit).getD 0) 0)

/-- Whether a text writes a colour by its red, green and blue parts. -/
def isMixed (text : List Char) : Except PartFault Bool :=
  match between? "rgb(" ")" text with
  | none => .ok false
  | some parts =>
    if parts.all fun character => character = ',' || (Text.decimalDigit character).isSome then
      match Text.splitAt ',' parts with
      | [red, green, blue] => do
        let red ← partNumber red
        let green ← partNumber green
        let blue ← partNumber blue
        return decide (red ≤ 255 ∧ green ≤ 255 ∧ blue ≤ 255)
      | _ => .ok false
    else .ok false

/-- Whether a word writes a colour: by name, by number, or by its parts. -/
def isColor (word : String) : Except PartFault Bool :=
  let text := word.toList
  let numbered :=
    match between? "color(" ")" text with
    | some number => isByteNumber number && decide (number.length ≤ 3)
    | none => false
  let hexadecimal :=
    match text with
    | '#' :: digits => digits.length == 6 && digits.all Text.isHexDigit
    | _ => false
  if word == "default" || isColorName word || numbered || hexadecimal then .ok true
  else isMixed text

/-- A style: attributes switched on or off, two colours and a link. -/
structure Style where
  attributes : List (String × Bool)
  color : Option String
  background : Option String
  link : Option String
  deriving DecidableEq, Repr

namespace Style

/-- The style without anything. -/
def plain : Style := ⟨[], none, none, none⟩

/-- Switches an attribute. -/
def switch (style : Style) (name : String) (on : Bool) : Style :=
  { style with
    attributes := (name, on) :: style.attributes.filter fun entry => entry.1 != name }

/-- The style that words mean, if they mean one. -/
def ofWords (style : Style) : List String → Except PartFault (Option Style)
  | [] => .ok (some style)
  | word :: rest =>
    let lower := Text.lower word
    if lower = "on" then
      match rest with
      | color :: rest =>
        match isColor (Text.lower color) with
        | .ok true => ofWords { style with background := some (Text.lower color) } rest
        | .ok false => .ok none
        | .error fault => .error fault
      | [] => .ok none
    else if lower = "not" then
      match rest with
      | name :: rest =>
        match attributeOf? name with
        | some found => ofWords (style.switch found false) rest
        | none => .ok none
      | [] => .ok none
    else if lower = "link" then
      match rest with
      | target :: rest => ofWords { style with link := some target } rest
      | [] => .ok none
    else
      match attributeOf? lower with
      | some found => ofWords (style.switch found true) rest
      | none =>
        match isColor lower with
        | .ok true => ofWords { style with color := some lower } rest
        | .ok false => .ok none
        | .error fault => .error fault

/-- The words of a style in their order. -/
def words (style : Style) : List String :=
  attributeWords.flatMap (fun (name, _) =>
    match style.attributes.find? fun entry => entry.1 == name with
    | some (_, true) => [name]
    | some (_, false) => ["not", name]
    | none => []) ++
  style.color.toList ++ (style.background.map fun color => ["on", color]).getD [] ++
  (style.link.map fun target => ["link", target]).getD []

/-- The style that a text names, if it names one. -/
def read (text : String) : Except PartFault (Option Style) :=
  match Text.words text with
  | ["none"] => .ok (some plain)
  | words => ofWords plain words

/-- The normal form of a text that names a style. -/
def normalize (text : String) : Except PartFault String :=
  (read text).map fun style =>
    match style with
    | some style => if style = plain then "none" else " ".intercalate style.words
    | none => Text.lower (String.ofList (Text.trimWhile Text.isBlank text.toList))

end Style

end Multitarget.Console
