import Multitarget.Data.Calendar
import Multitarget.Text.Base64
import Multitarget.Text.Quoted
import Multitarget.Yaml.Cursor

/-!
# Why a YAML text cannot be read

A text is refused for a character that YAML does not allow, for a problem at a
mark, for a scalar whose text does not fit its tag, or because its bytes are no
text.
-/

namespace Multitarget.Yaml

/-- What is wrong at a mark. -/
inductive Problem where
  | cannotStart (character : Char)
  | keyWithoutColon
  | sequenceNotAllowed
  | keyNotAllowed
  | valueNotAllowed
  /-- Something else stands where `wanted` should. -/
  | expected (wanted : String) (found : Option Char)
  | zeroIndentation
  | unknownEscape (found : Option Char)
  | endInQuotes
  | separatorInQuotes
  | encoding (failure : Text.Utf8.Malformed)
  | expectedDocument (token : String)
  | duplicateVersion
  | incompatibleVersion
  | duplicateHandle (handle : String)
  | undefinedHandle (handle : String)
  | expectedContent (token : String)
  | expectedBlockEnd (token : String)
  /-- A flow collection goes on neither with a comma nor with its closing bracket. -/
  | expectedFlowEnd (closing token : String)
  | undefinedAlias (name : String)
  | duplicateAnchor
  | anotherDocument
  | unhashableKey
  | noConstructor (tag : String)
  /-- A node of another kind stands where `wanted` should. -/
  | expectedNode (wanted found : String)
  | mergeSource (found : String)
  | mergeItem (found : String)
  | expectedSequence (found : String)
  | expectedPair (found : String)
  | pairSize (count : Nat)
  | notAscii (characters : List Char) (position : Nat)
  | base64 (failure : Text.Base64.Failure)
  deriving DecidableEq, Repr

/-- The character found, quoted; the end counts as the character zero. -/
def shownCharacter (found : Option Char) : String :=
  Text.quoted (String.singleton (found.getD '\x00'))

/-- A character by its number. -/
def numbered (character : Char) : String :=
  let code := character.toNat
  String.ofList <|
    if code < 0x100 then '\\' :: 'x' :: Text.hexadecimal 2 code
    else if code < 0x10000 then '\\' :: 'u' :: Text.hexadecimal 4 code
    else '\\' :: 'U' :: Text.hexadecimal 8 code

/-- The wording of characters that are not ASCII. -/
def notAsciiMessage (characters : List Char) (position : Nat) : String :=
  let place :=
    match characters with
    | [character] => "character '" ++ numbered character ++ "' in position " ++ toString position
    | _ => "characters in position " ++ toString position ++ "-"
        ++ toString (position + characters.length - 1)
  "'ascii' codec can't encode " ++ place ++ ": ordinal not in range(128)"

/-- The wording of a problem. -/
def Problem.message : Problem → String
  | .cannotStart character =>
    "found character " ++ shownCharacter (some character) ++ " that cannot start any token"
  | .keyWithoutColon => "could not find expected ':'"
  | .sequenceNotAllowed => "sequence entries are not allowed here"
  | .keyNotAllowed => "mapping keys are not allowed here"
  | .valueNotAllowed => "mapping values are not allowed here"
  | .expected wanted found => "expected " ++ wanted ++ ", but found " ++ shownCharacter found
  | .zeroIndentation =>
    "expected indentation indicator in the range 1-9, but found 0"
  | .unknownEscape found => "found unknown escape character " ++ shownCharacter found
  | .endInQuotes => "found unexpected end of stream"
  | .separatorInQuotes => "found unexpected document separator"
  | .encoding failure => failure.message
  | .expectedDocument token => "expected '<document start>', but found " ++ Text.quoted token
  | .duplicateVersion => "found duplicate YAML directive"
  | .incompatibleVersion => "found incompatible YAML document (version 1.* is required)"
  | .duplicateHandle handle => "duplicate tag handle " ++ Text.quoted handle
  | .undefinedHandle handle => "found undefined tag handle " ++ Text.quoted handle
  | .expectedContent token => "expected the node content, but found " ++ Text.quoted token
  | .expectedBlockEnd token => "expected <block end>, but found " ++ Text.quoted token
  | .expectedFlowEnd closing token =>
    "expected ',' or '" ++ closing ++ "', but got " ++ Text.quoted token
  | .undefinedAlias name => "found undefined alias " ++ Text.quoted name
  | .duplicateAnchor => "second occurrence"
  | .anotherDocument => "but found another document"
  | .unhashableKey => "found unhashable key"
  | .noConstructor tag => "could not determine a constructor for the tag " ++ Text.quoted tag
  | .expectedNode wanted found => "expected a " ++ wanted ++ " node, but found " ++ found
  | .mergeSource found =>
    "expected a mapping or list of mappings for merging, but found " ++ found
  | .mergeItem found => "expected a mapping for merging, but found " ++ found
  | .expectedSequence found => "expected a sequence, but found " ++ found
  | .expectedPair found => "expected a mapping of length 1, but found " ++ found
  | .pairSize count =>
    "expected a single mapping item, but found " ++ toString count ++ " items"
  | .notAscii characters position =>
    "failed to convert base64 data into ascii: " ++ notAsciiMessage characters position
  | .base64 failure => "failed to decode base64 data: " ++ failure.message

/-- Why the text of a scalar does not fit its tag. -/
inductive Mismatch where
  /-- A number without characters. -/
  | emptyNumber
  | integer (base : Nat) (text : String)
  /-- A decimal numeral of too many digits. -/
  | longInteger (digits : Nat)
  /-- A group in base sixty stands so far ahead that its weight is near no number of the format. -/
  | largeWeight
  | real (text : String)
  | truth (text : String)
  | calendar (error : CalendarError)
  | moment
  /-- A mapping with a value sign stands for a moment. -/
  | mappedMoment
  | character (code : Nat)
  deriving DecidableEq, Repr

/-- Whether a number is too large for a code point even to be compared. -/
def isHugeCode (code : Nat) : Bool := decide (0x80000000 ≤ code)

/-- The wording of a mismatch. -/
def Mismatch.message : Mismatch → String
  | .emptyNumber => "string index out of range"
  | .integer base text =>
    "invalid literal for int() with base " ++ toString base ++ ": "
      ++ String.ofList ((Text.quoted text).toList.take 200)
  | .longInteger digits => Text.longNumeralMessage digits
  | .largeWeight => "int too large to convert to float"
  | .real text => "could not convert string to float: " ++ Text.quoted text
  | .truth text => Text.quoted text
  | .calendar error => error.message
  | .moment => "'NoneType' object has no attribute 'groupdict'"
  | .mappedMoment => "expected string or bytes-like object, got 'list'"
  | .character code =>
    if isHugeCode code then "Python int too large to convert to C int"
    else "chr() arg not in range(0x110000)"

/-- Why a text is refused. -/
inductive Error where
  /-- A character that YAML does not allow, and how many characters come before it. -/
  | unacceptable (character : Char) (position : Nat)
  | problem (problem : Problem) (mark : Mark)
  | mismatch (mismatch : Mismatch) (mark : Mark)
  /-- Bytes that are no text. -/
  | undecodable (failure : Text.Utf8.Malformed)
  deriving DecidableEq, Repr

/-- The mark of a refusal, if it has one. -/
def Error.mark : Error → Option Mark
  | .unacceptable _ _ => none
  | .problem _ mark => some mark
  | .mismatch _ mark => some mark
  | .undecodable _ => none

/-- The first position of a text that cannot be read, and why. -/
structure Horizon where
  position : Nat
  error : Error

/-- What comes of looking at a position, if it lies beyond what can be read. -/
def hidden? (horizon : Option Horizon) (position : Nat) : Option Error :=
  horizon.bind fun horizon =>
    if horizon.position ≤ position then some horizon.error else none

end Multitarget.Yaml
