import Multitarget.Text.Lines

/-!
# Paths

Paths as lists of parts. Doubled and trailing slashes and single points do not
matter; a part of two points stays as it is. Exactly two leading slashes are a
root of their own.
-/

namespace Multitarget

/-- A path: its root, empty for a relative path, and its parts. -/
structure FilePath where
  root : String
  parts : List String
  deriving DecidableEq, Repr

namespace FilePath

/-- The root that a text starts with. -/
def rootOf : List Char → String
  | '/' :: '/' :: '/' :: _ => "/"
  | '/' :: '/' :: _ => "//"
  | '/' :: _ => "/"
  | _ => ""

/-- The parts of a text between slashes that name something. -/
def partsOf (text : List Char) : List String :=
  ((Text.splitAt '/' text).map String.ofList).filter fun part => part != "" && part != "."

/-- The path that a text writes. -/
def ofText (text : String) : FilePath :=
  ⟨rootOf text.toList, partsOf text.toList⟩

/-- The text of a path; the empty relative path is a point. -/
def text (path : FilePath) : String :=
  if path.root = "" ∧ path.parts = [] then "."
  else path.root ++ "/".intercalate path.parts

instance : ToString FilePath := ⟨text⟩

/-- Whether the path starts at a root. -/
def isAbsolute (path : FilePath) : Bool := path.root != ""

/-- The second path seen from the first; an absolute one is taken as it is. -/
def append (first second : FilePath) : FilePath :=
  if second.isAbsolute then second else ⟨first.root, first.parts ++ second.parts⟩

/-- The path without its last part. -/
def parent (path : FilePath) : FilePath := { path with parts := path.parts.dropLast }

/-- The last part. -/
def name (path : FilePath) : String := path.parts.getLast?.getD ""

/-- The last part from its last point on, if something stands before and behind the point. -/
def suffix (path : FilePath) : String :=
  let name := path.name.toList
  let tail := (name.reverse.takeWhile (· != '.')).reverse
  let before := name.length - tail.length - 1
  if tail.length < name.length ∧ 0 < before ∧ tail ≠ [] then String.ofList ('.' :: tail) else ""

/-- Whether the path holds a zero character, which no file has in its name. -/
def hasNull (path : FilePath) : Bool :=
  path.parts.any fun part => part.toList.contains '\x00'

end FilePath

end Multitarget
