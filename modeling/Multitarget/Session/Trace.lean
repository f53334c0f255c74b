import Multitarget.Session.Event

/-!
# Traces

What the events of a session say about one concern: the log, the calls of
backends, telemetry, or scratch contexts.
-/

namespace Multitarget.Trace

/-- The log records. -/
def records (trace : List Event) : List Log.Record :=
  trace.filterMap fun
    | .logged record => some record
    | _ => none

/-- The calls of backends. -/
def calls (trace : List Event) : List Call :=
  trace.filterMap fun
    | .called call => some call
    | _ => none

/-- What was reported to an observer. -/
def observations (trace : List Event) : List Observation :=
  trace.filterMap fun
    | .observed observation => some observation
    | _ => none

/-- The events attached to spans. -/
def attached (trace : List Event) : List (String × List (String × Json.Document)) :=
  trace.filterMap fun
    | .attached name attributes => some (name, attributes)
    | _ => none

/-- The contexts that were opened. -/
def opened (trace : List Event) : List ContextId :=
  trace.filterMap fun
    | .opened context => some context
    | _ => none

/-- The contexts that were released. -/
def released (trace : List Event) : List ContextId :=
  trace.filterMap fun
    | .released context => some context
    | _ => none

/-- How the log was set up, the first time. -/
def logSettings (trace : List Event) : Option LogSettings :=
  trace.findSome? fun
    | .configuredLog settings => some settings
    | _ => none

/-- What was written to the console. -/
def printed (trace : List Event) : List String :=
  trace.filterMap fun
    | .printed text => some text
    | _ => none

/-- The calls together with the contexts released before them, given those released already. -/
def callsAfter (released : List ContextId) : List Event → List (List ContextId × Call)
  | [] => []
  | .released context :: rest => callsAfter (context :: released) rest
  | .called call :: rest => (released, call) :: callsAfter released rest
  | _ :: rest => callsAfter released rest

end Multitarget.Trace
