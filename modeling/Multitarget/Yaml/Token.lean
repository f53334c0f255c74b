import Multitarget.Yaml.Error

/-!
# YAML tokens

The pieces that a YAML text is read in: marks of documents, collections and
their parts, properties of nodes, and scalars.
-/

namespace Multitarget.Yaml

/-- A directive before a document. -/
inductive Directive where
  | version (major minor : Nat)
  | handle (handle tagPrefix : String)
  | other
  deriving DecidableEq, Repr

/-- What a token is. -/
inductive TokenKind where
  | streamStart
  | streamEnd
  | directive (directive : Directive)
  | documentStart
  | documentEnd
  | blockSequenceStart
  | blockMappingStart
  | blockEnd
  | flowSequenceStart
  | flowSequenceEnd
  | flowMappingStart
  | flowMappingEnd
  | key
  | value
  | blockEntry
  | flowEntry
  | alias (name : String)
  | anchor (name : String)
  | tag (handle : Option String) (suffix : String)
  | scalar (text : String) (plain : Bool)
  deriving DecidableEq, Repr

/-- The name of a kind of token in messages. -/
def TokenKind.name : TokenKind → String
  | .streamStart => "<stream start>"
  | .streamEnd => "<stream end>"
  | .directive _ => "<directive>"
  | .documentStart => "<document start>"
  | .documentEnd => "<document end>"
  | .blockSequenceStart => "<block sequence start>"
  | .blockMappingStart => "<block mapping start>"
  | .blockEnd => "<block end>"
  | .flowSequenceStart => "["
  | .flowSequenceEnd => "]"
  | .flowMappingStart => "\x7b"
  | .flowMappingEnd => "\x7d"
  | .key => "?"
  | .value => ":"
  | .blockEntry => "-"
  | .flowEntry => ","
  | .alias _ => "<alias>"
  | .anchor _ => "<anchor>"
  | .tag _ _ => "<tag>"
  | .scalar _ _ => "<scalar>"

/-- A token and the places before and behind it. -/
structure Token where
  kind : TokenKind
  start : Mark
  stop : Mark
  deriving DecidableEq, Repr

/-- Fails at a cursor. -/
def Cursor.fail {α : Type} (cursor : Cursor) (problem : Problem) : Except Error α :=
  .error (.problem problem cursor.mark)

/-- Fails because something else stands at the cursor. -/
def Cursor.failExpected {α : Type} (cursor : Cursor) (wanted : String) : Except Error α :=
  cursor.fail (.expected wanted cursor.head)

end Multitarget.Yaml
