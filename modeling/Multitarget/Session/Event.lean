import Multitarget.Domain.Configuration
import Multitarget.Domain.Outcome
import Multitarget.Domain.Source
import Multitarget.Files.Path
import Multitarget.Log.Record

/-!
# Events

What an operation does that can be observed from outside, in the order in which
it happens: scratch contexts that open and are released, calls of backends, log
records, telemetry, files that are written, and text on the console.
-/

namespace Multitarget

/-- A call of a backend with what it is given. -/
inductive Call where
  | run (files : List SourceHandle) (addByteCode : Bool) (arguments : String)
  | test (files : List SourceHandle) (addByteCode : Bool)
  | compile (files : List SourceHandle) (addClasspath : Bool)
  | translateJs (files : List SourceHandle) (arguments : List String)
  | translateWasm (files : List SourceHandle) (arguments : List String) (variant : Variant)
    (debugInfo : Bool)
  | complete (file : SourceHandle) (line column : Int) (target : Target) (context : ContextId)
  deriving DecidableEq, Repr

/-- The source files that a call is given. -/
def Call.handles : Call → List SourceHandle
  | .run files _ _ => files
  | .test files _ => files
  | .compile files _ => files
  | .translateJs files _ => files
  | .translateWasm files _ _ _ => files
  | .complete file _ _ _ _ => [file]

/-- The name of the operation that a call is of. -/
def Call.operation : Call → String
  | .run _ _ _ => "jvm.run"
  | .test _ _ => "jvm.test"
  | .compile _ _ => "jvm.compile"
  | .translateJs _ _ => "js"
  | .translateWasm _ _ _ _ => "wasm"
  | .complete _ _ _ _ _ => "completion"

/-- What a call is given beside files. -/
def Call.details : Call → List (String × Json.Document)
  | .run _ addByteCode arguments =>
    [("addByteCode", .bool addByteCode), ("args", .text arguments)]
  | .test _ addByteCode => [("addByteCode", .bool addByteCode)]
  | .compile _ addClasspath => [("addClasspath", .bool addClasspath)]
  | .translateJs _ arguments => [("arguments", .array (arguments.map .text))]
  | .translateWasm _ arguments variant debugInfo =>
    [("arguments", .array (arguments.map .text)), ("target", .text variant.name),
      ("debugInfo", .bool debugInfo)]
  | .complete _ line column target _ =>
    [("line", .int line), ("character", .int column), ("projectType", .text target.name)]

/-- A result with what is reported beside it. -/
structure Observation where
  outcome : Outcome
  target : Target
  version : String

/-- Something that can be observed of an operation. -/
inductive Event where
  | logged (record : Log.Record)
  | opened (context : ContextId)
  | called (call : Call)
  | released (context : ContextId)
  | observed (observation : Observation)
  /-- An event was attached to the current span. -/
  | attached (name : String) (attributes : List (String × Json.Document))
  /-- The directory of a path was made sure of. -/
  | prepared (path : FilePath)
  /-- A file was written. -/
  | stored (path : FilePath)
  /-- The log was set up. -/
  | configuredLog (settings : LogSettings)
  /-- A text was written to the console. -/
  | printed (text : String)

end Multitarget
