import Multitarget.Files.Path
import Multitarget.Text.Utf8

/-!
# File trees

A tree of directories and files without links. Entries are listed by their
location from the root; the root itself is a directory that is always there.
Paths are looked up part by part, and two points lead back to the directory
that holds the present one.
-/

namespace Multitarget

/-- Where an entry is: the names from the root down to it. -/
abbrev Location := List String

/-- An entry of a file tree. -/
inductive FileNode where
  | directory
  | file (content : Text.Bytes)
  deriving DecidableEq, Repr

/-- A tree of directories and files. -/
structure FileTree where
  entries : List (Location × FileNode)
  deriving DecidableEq, Repr

/-- Why a path does not lead to an entry, or the entry cannot be used. -/
inductive Obstacle where
  | noEntry
  | exists
  | notDirectory
  | isDirectory
  | nameTooLong
  deriving DecidableEq, Repr

namespace Obstacle

/-- The number of an obstacle. -/
def number : Obstacle → Nat
  | .noEntry => 2
  | .exists => 17
  | .notDirectory => 20
  | .isDirectory => 21
  | .nameTooLong => 36

/-- The wording of an obstacle. -/
def reason : Obstacle → String
  | .noEntry => "No such file or directory"
  | .exists => "File exists"
  | .notDirectory => "Not a directory"
  | .isDirectory => "Is a directory"
  | .nameTooLong => "File name too long"

end Obstacle

namespace FileTree

/-- The tree with nothing below the root. -/
def empty : FileTree := ⟨[]⟩

instance : Inhabited FileTree := ⟨empty⟩

/-- The entry of a location among entries. -/
def find (location : Location) : List (Location × FileNode) → Option FileNode
  | [] => none
  | (other, node) :: rest => if other = location then some node else find location rest

/-- The entry at a location. -/
def get? (tree : FileTree) (location : Location) : Option FileNode :=
  if location = [] then some .directory else find location tree.entries

/-- Entries with the one at a location replaced or added. -/
def place (location : Location) (node : FileNode) :
    List (Location × FileNode) → List (Location × FileNode)
  | [] => [(location, node)]
  | (other, old) :: rest =>
    if other = location then (other, node) :: rest else (other, old) :: place location node rest

/-- Puts an entry at a location. -/
def put (tree : FileTree) (location : Location) (node : FileNode) : FileTree :=
  ⟨place location node tree.entries⟩

/-- Whether a location lies at or below another. -/
def isWithin (outer location : Location) : Bool := outer.isPrefixOf location

/-- Takes away a location and all below it. -/
def remove (tree : FileTree) (location : Location) : FileTree :=
  ⟨tree.entries.filter fun entry => !isWithin location entry.1⟩

/-- The longest name of an entry, in bytes. -/
def nameLimit : Nat := 255

/-- The longest text of a path, in bytes. -/
def pathLimit : Nat := 4095

/-- What a path leads to. -/
inductive Target where
  /-- An entry. -/
  | present (location : Location) (node : FileNode)
  /-- A place in a directory that holds nothing. -/
  | absent (location : Location)
  /-- Nowhere. -/
  | blocked (obstacle : Obstacle)
  deriving DecidableEq, Repr

/-- Follows the parts of a path from an entry. -/
def follow (tree : FileTree) (location : Location) (node : FileNode) : List String → Target
  | [] => .present location node
  | part :: rest =>
    match node with
    | .file _ => .blocked .notDirectory
    | .directory =>
      if part = ".." then follow tree location.dropLast .directory rest
      else if nameLimit < (Text.Utf8.encode part).length then .blocked .nameTooLong
      else
        match tree.get? (location ++ [part]) with
        | some node => follow tree (location ++ [part]) node rest
        | none => if rest = [] then .absent (location ++ [part]) else .blocked .noEntry

/-- What a path leads to, seen from a working directory. -/
def resolve (tree : FileTree) (working : Location) (path : FilePath) : Target :=
  if pathLimit < (Text.Utf8.encode path.text).length then .blocked .nameTooLong
  else if path.isAbsolute then tree.follow [] .directory path.parts
  else
    match tree.get? working with
    | some node => tree.follow working node path.parts
    | none => .blocked .noEntry

/-- Puts an entry at a location, and directories where they are missing above it. -/
def plant (tree : FileTree) (location : Location) (node : FileNode) : FileTree :=
  let above := (List.range location.length).map fun depth => location.take depth
  let tree := above.foldl (fun tree place =>
    if (tree.get? place).isSome then tree else tree.put place .directory) tree
  tree.put location node

/-- Where a path leads if all its directories are there, seen from a working directory. -/
def locate (working : Location) (path : FilePath) : Location :=
  path.parts.foldl (fun location part =>
    if part = ".." then location.dropLast else location ++ [part])
    (if path.isAbsolute then [] else working)

/-- The entries below a location with their paths from there, in the order of the paths. The path
of a directory ends in a slash. -/
def listBelow (tree : FileTree) (location : Location) : List (String × FileNode) :=
  let below := tree.entries.filterMap fun (place, node) =>
    if isWithin location place && place != location then
      let path := "/".intercalate (place.drop location.length)
      match node with
      | .directory => some (path ++ "/", node)
      | .file _ => some (path, node)
    else none
  below.mergeSort fun first second => first.1 ≤ second.1

@[simp] theorem get?_root (tree : FileTree) : tree.get? [] = some .directory := rfl

theorem find_place (location other : Location) (node : FileNode)
    (entries : List (Location × FileNode)) :
    find other (place location node entries) =
      if other = location then some node else find other entries := by
  induction entries with
  | nil => simp [place, find, eq_comm]
  | cons entry rest ih =>
    obtain ⟨key, old⟩ := entry
    by_cases here : key = location
    · subst here
      by_cases same : other = key
      · simp [place, find, same]
      · have apart : key ≠ other := fun equal => same equal.symm
        simp [place, find, same, apart]
    · simp only [place, here, if_false, find, ih]
      by_cases same : other = location
      · have apart : key ≠ other := fun equal => here (equal.trans same)
        simp [same]
        intro equal
        exact absurd equal here
      · simp [same]

/-- A put entry is what is found there, and nothing else changes. -/
theorem get?_put (tree : FileTree) (location other : Location) (node : FileNode) :
    (tree.put location node).get? other =
      if other = [] then some .directory
      else if other = location then some node else tree.get? other := by
  by_cases root : other = []
  · simp [get?, root]
  · simp [get?, put, root, find_place]

end FileTree

end Multitarget
