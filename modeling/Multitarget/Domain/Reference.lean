import Multitarget.Text.Lines
import Multitarget.Text.WordCharacter

/-!
# References

A backend is named by a module and an member, each a dotted name, with a
colon between them.
-/

namespace Multitarget.Reference

/-- Whether a dotted name starts here: with an ASCII letter or an underscore. -/
def isInitial (character : Char) : Bool :=
  ('A' ≤ character && character ≤ 'Z') || ('a' ≤ character && character ≤ 'z') || character == '_'

/-- Whether the text is a name with points: an initial, then word characters and points. -/
def isDottedName : List Char → Bool
  | [] => false
  | first :: rest =>
    isInitial first && rest.all fun character => character == '.' || Text.isWord character

/-- The form of a reference. -/
def pattern : String := "^[A-Za-z_][\\w.]*:[A-Za-z_][\\w.]*$"

/-- Whether a text is a reference. -/
def isReference (text : String) : Bool :=
  match Text.splitAt ':' text.toList with
  | [module, member] => isDottedName module && isDottedName member
  | _ => false

/-- The text before the first colon and the text behind it, empty if there is no colon. -/
def split (text : String) : String × String :=
  let module := text.toList.takeWhile (· != ':')
  (String.ofList module, String.ofList (text.toList.drop (module.length + 1)))

/-- The names between the points of an member. -/
def attributeNames (member : String) : List String :=
  (Text.splitAt '.' member.toList).map String.ofList

end Multitarget.Reference
