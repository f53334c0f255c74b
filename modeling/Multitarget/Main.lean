import Multitarget.Command.Line

/-!
# The program

Runs the command line that the program was started with. What it may read is
brought into a session first; directories and files that it made are carried out
to the disk afterwards. No backends come with the program, so a configuration can
be checked but not used: whoever links some runs `CommandLine.run` with a registry
of them.
-/

namespace Multitarget.Program

/-- Brings what a path leads to, if anything, into a session. -/
def bring (session : Session) (path : FilePath) : IO Session := do
  let location := FileTree.locate session.working path
  let withNode (node : FileNode) : Session :=
    { session with files := session.files.plant location node }
  try
    let content ← IO.FS.readBinFile path.text
    return withNode (.file content.toList)
  catch
    | .noFileOrDirectory .. => return session
    | _ => return withNode .directory

/-- Carries out on the disk what an event says was done to files. -/
def carryOut (session : Session) : Event → IO Unit
  | .prepared path => IO.FS.createDirAll path.text
  | .stored path =>
    match session.files.resolve session.working path with
    | .present _ (.file content) => IO.FS.writeBinFile path.text ⟨content.toArray⟩
    | _ => return
  | _ => return

/-- The session that the program starts with in a directory. -/
def startIn (directory : String) : Session where
  files :=
    (FileTree.empty.plant ["tmp"] .directory).plant
      (FileTree.locate [] (FilePath.ofText directory)) .directory
  working := FileTree.locate [] (FilePath.ofText directory)
  temporary := ⟨"/", ["tmp"]⟩
  version := none
  nextContext := 0
  trace := []

end Multitarget.Program

open Multitarget in
/-- Runs the program. -/
def main (words : List String) : IO UInt32 := do
  let setting ← IO.getEnv Loading.configurationVariable
  let directory ← IO.currentDir
  let session ← (CommandLine.inputs setting words).foldlM Program.bring
    (Program.startIn directory.toString)
  let (report, session) := CommandLine.run ⟨[], setting⟩ words session
  session.trace.forM (Program.carryOut session)
  IO.print report.output
  IO.eprint report.errors
  report.uncaught.forM fun fault => IO.eprintln fault.message
  return report.status.toUInt32
