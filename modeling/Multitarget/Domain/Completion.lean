import Multitarget.Json.Document
import Multitarget.Schema.Record

/-!
# Completions and versions

Proposals for completing source text at a position, and the version of the
backends that results are reported under.
-/

namespace Multitarget

open Schema (Checked Field)
open Json (Document)

/-- A proposal for completing source text. -/
structure Completion where
  text : String
  displayText : String
  tail : String
  importName : Option String
  icon : String
  hasOtherImports : Bool
  deriving DecidableEq, Repr

namespace Completion

/-- The fields of a proposal. -/
def fields : List Field :=
  [.simple "text", ⟨"displayText", "display_text"⟩, .simple "tail", ⟨"import", "import_"⟩,
    .simple "icon", ⟨"hasOtherImports", "has_other_imports"⟩]

/-- Reads a proposal. -/
def check : Value → Checked Completion :=
  Schema.record "Completion" fields fun entries =>
    Completion.mk
      <$> Schema.required entries (.simple "text") Schema.text
      <*> Schema.required entries ⟨"displayText", "display_text"⟩ Schema.text
      <*> Schema.defaulted entries (.simple "tail") "" Schema.text
      <*> Schema.defaulted entries ⟨"import", "import_"⟩ none (Schema.optional Schema.text)
      <*> Schema.defaulted entries (.simple "icon") "" Schema.text
      <*> Schema.defaulted entries ⟨"hasOtherImports", "has_other_imports"⟩ false Schema.bool

/-- The wire form of a proposal. -/
def toDocument (completion : Completion) : Document :=
  .object [
    ("text", .text completion.text),
    ("displayText", .text completion.displayText),
    ("tail", .text completion.tail),
    ("import", .ofText? completion.importName),
    ("icon", .text completion.icon),
    ("hasOtherImports", .bool completion.hasOtherImports)]

end Completion

/-- The version of the backends and of the standard library that comes with them. -/
structure Version where
  compiler : String
  library : String
  deriving DecidableEq, Repr

namespace Version

/-- Reads a version. -/
def check : Value → Checked Version :=
  Schema.record "VersionInfo" [.simple "version", ⟨"stdlibVersion", "stdlib_version"⟩]
    fun entries =>
      Version.mk
        <$> Schema.required entries (.simple "version") Schema.fullText
        <*> Schema.required entries ⟨"stdlibVersion", "stdlib_version"⟩ Schema.fullText

/-- The wire form of a version. -/
def toDocument (version : Version) : Document :=
  .object [("version", .text version.compiler), ("stdlibVersion", .text version.library)]

end Version

end Multitarget
