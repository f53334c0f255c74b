import Multitarget.Domain.Report
import Multitarget.Session.Basic

/-!
# Artifacts

Class files, or the report of why there are none, are written below an output
directory. A path that would leave the directory is refused.
-/

namespace Multitarget.Artifacts

/-- The name of the report below an output directory. -/
def reportName : String := "compile.err"

/-- A path text with backslashes made slashes. -/
def withSlashes (text : String) : String :=
  String.ofList (text.toList.map fun character => if character = '\\' then '/' else character)

/-- Where an artifact is written: below the output directory, if its path is relative, names
something and does not lead upwards. -/
def resolve (output : FilePath) (artifact : String) : Option FilePath :=
  let path := FilePath.ofText (withSlashes artifact)
  if artifact = "" ∨ path.isAbsolute ∨ path.parts.contains ".." then none
  else some { output with parts := output.parts ++ path.parts }

/-- Writes artifacts one after another; gives the paths that were written. -/
def storeAll (output : FilePath) : List (String × Text.Bytes) → Action (List FilePath)
  | [] => return []
  | (artifact, content) :: rest => do
    match resolve output artifact with
    | none =>
      Action.fail (.persistence artifact "path must be relative to the output directory")
    | some path =>
      Action.prepareDirectory path.parent
      Action.storeFile path content
      return path :: (← storeAll output rest)

/-- Writes class files below an output directory. -/
def storeClasses (files : Keyed Text.Bytes) (output : FilePath) : Action (List FilePath) := do
  Action.prepareDirectory output
  let written ← storeAll output files.entries
  Action.log .info "artifacts_saved" [("output_dir", .text output.text),
    ("count", .int written.length)]
  return written

/-- Writes the report of diagnostics below an output directory. -/
def storeReport (diagnostics : Diagnostics) (output : FilePath) : Action FilePath := do
  Action.prepareDirectory output
  let path := output.append ⟨"", [reportName]⟩
  Action.prepareDirectory path.parent
  Action.storeFile path (Text.Utf8.encode (Report.render diagnostics))
  Action.log .info "errors_saved" [("path", .text path.text),
    ("diagnostics", .int (diagnostics.count none))]
  return path

end Multitarget.Artifacts
