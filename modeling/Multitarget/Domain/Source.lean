import Multitarget.Domain.Project
import Multitarget.Text.Lines

/-!
# Source handles

What a backend gets of a project: each file with its name and its text, line
ends made one line feed, bound to the scratch context of the call.
-/

namespace Multitarget

/-- The number of a scratch context. -/
abbrev ContextId := Nat

/-- A source file bound to a scratch context. -/
structure SourceHandle where
  name : String
  text : String
  context : ContextId
  deriving DecidableEq, Repr

namespace SourceHandle

/-- The text of a file with each return before a line feed dropped. -/
def normalize (text : String) : String :=
  String.ofList (Text.joinReturns text.toList)

/-- The handle of a file in a context. -/
def ofFile (context : ContextId) (file : ProjectFile) : SourceHandle :=
  ⟨file.name, normalize file.text, context⟩

/-- The handles of all files of a project, in order. -/
def ofProject (context : ContextId) (project : Project) : List SourceHandle :=
  project.files.map (ofFile context)

/-- The lines of the text without their ends; an empty text has one empty line. -/
def lines (handle : SourceHandle) : List String :=
  (Text.lines handle.text.toList).map String.ofList

/-- Whether a cursor can stand at a zero-based position: before a character of the line or at its
end. -/
def containsPosition (handle : SourceHandle) (line column : Int) : Bool :=
  if line < 0 ∨ column < 0 then false
  else
    match handle.lines[line.toNat]? with
    | none => false
    | some text => decide (column ≤ text.length)

end SourceHandle

end Multitarget
