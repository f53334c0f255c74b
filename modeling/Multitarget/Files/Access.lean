import Multitarget.Files.Tree

/-!
# Using files

Reading and writing of a file tree from a working directory. An operation that
fails says at which path and why, and keeps what it did before.
-/

namespace Multitarget

/-- Why a file operation failed. -/
inductive FileFault where
  /-- The path has an obstacle. -/
  | obstacle (obstacle : Obstacle) (path : String)
  /-- The path holds a zero character. -/
  | nullCharacter
  deriving DecidableEq, Repr

/-- An operation on a file tree. -/
abbrev FileAction (α : Type) := ExceptT FileFault (StateM FileTree) α

namespace FileTree

/-- Fails at a path. -/
def block {α : Type} (path : FilePath) (obstacle : Obstacle) : FileAction α :=
  throw (.obstacle obstacle path.text)

/-- Whether a path leads to an entry. A name that is too long is not just absent. -/
def «exists» (working : Location) (path : FilePath) : FileAction Bool := do
  if path.hasNull then return false
  match (← get).resolve working path with
  | .present _ _ => return true
  | .absent _ => return false
  | .blocked .nameTooLong => block path .nameTooLong
  | .blocked _ => return false

/-- Makes one directory. -/
def makeDirectory (working : Location) (path : FilePath) : FileAction Unit := do
  if path.hasNull then throw .nullCharacter
  match (← get).resolve working path with
  | .present _ _ => block path .exists
  | .absent location => modify (·.put location .directory)
  | .blocked obstacle => block path obstacle

/-- Makes one directory unless the path leads to one. -/
def ensureDirectory (working : Location) (path : FilePath) : FileAction Unit := do
  if path.hasNull then throw .nullCharacter
  match (← get).resolve working path with
  | .present _ .directory => return
  | .present _ (.file _) => block path .exists
  | .absent location => modify (·.put location .directory)
  | .blocked obstacle => block path obstacle

/-- Makes a directory and those that lead to it; `parts` are the parts of the path from the last
to the first. A directory that a path needs is made, and a path through a missing one is tried
once more after it was. -/
def ensureDirectoriesFrom (working : Location) (root : String) :
    (parts : List String) → FileAction Unit
  | [] => ensureDirectory working ⟨root, []⟩
  | part :: parts => do
    let path : FilePath := ⟨root, (part :: parts).reverse⟩
    if path.hasNull then throw .nullCharacter
    match (← get).resolve working path with
    | .blocked .noEntry =>
      ensureDirectoriesFrom working root parts
      ensureDirectory working path
    | _ => ensureDirectory working path

/-- Makes a directory and those that lead to it. -/
def ensureDirectories (working : Location) (path : FilePath) : FileAction Unit :=
  ensureDirectoriesFrom working path.root path.parts.reverse

/-- Writes a file, new or over an old one. -/
def writeFile (working : Location) (path : FilePath) (content : Text.Bytes) :
    FileAction Unit := do
  if path.hasNull then throw .nullCharacter
  match (← get).resolve working path with
  | .present location (.file _) => modify (·.put location (.file content))
  | .present _ .directory => block path .isDirectory
  | .absent location => modify (·.put location (.file content))
  | .blocked obstacle => block path obstacle

/-- Reads a file. -/
def readFile (working : Location) (path : FilePath) : FileAction Text.Bytes := do
  if path.hasNull then throw .nullCharacter
  match (← get).resolve working path with
  | .present _ (.file content) => return content
  | .present _ .directory => block path .isDirectory
  | .absent _ => block path .noEntry
  | .blocked obstacle => block path obstacle

end FileTree

end Multitarget
