import Multitarget.Session.Basic

/-!
# Telemetry

The outcome of every primary call is reported to a sink. Whatever a sink does,
it neither changes nor fails the call.
-/

namespace Multitarget

namespace Observation

/-- What is reported of a call. -/
def summary (observation : Observation) : List (String × Json.Document) :=
  let diagnostics := observation.outcome.diagnostics
  [("result_type", .text observation.outcome.typeName),
    ("status", .text observation.outcome.status.name),
    ("conf_type", .text observation.target.name),
    ("version", .text observation.version),
    ("errors", .int (diagnostics.count (some .error))),
    ("warnings", .int (diagnostics.count (some .warning))),
    ("has_exception", .bool observation.outcome.hasException)]

end Observation

/-- Where telemetry goes. -/
inductive Sink where
  /-- Nowhere. -/
  | none
  /-- To the log, as an event of a name. -/
  | log (event : String)
  /-- To the current span, as an event of a name. -/
  | span (event : String)
  /-- To an observer of a name, which may raise an exception. -/
  | observer (name : String) (refusal : Observation → Option Exception)

namespace Sink

/-- The name of the event in the log. -/
def logEvent : String := "execution_result"

/-- The name of the event on a span. -/
def spanEvent : String := "kompile.execution_result"

/-- The sink that a configuration asks for. -/
def ofMode : TelemetryMode → Sink
  | .none => .none
  | .log => .log logEvent
  | .span => .span spanEvent

/-- The name of the kind of sink. -/
def name : Sink → String
  | .none => "NoopTelemetrySink"
  | .log _ => "LoggingTelemetrySink"
  | .span _ => "SpanTelemetrySink"
  | .observer known _ => known

/-- Hands an observation to the sink. -/
def record (sink : Sink) (observation : Observation) : Action Unit :=
  match sink with
  | .none => return
  | .log event => Action.log .info event (("component", .text "telemetry") :: observation.summary)
  | .span event => Action.emit (.attached event observation.summary)
  | .observer _ refusal => do
    Action.emit (.observed observation)
    match refusal observation with
    | .none => return
    | some exception => throw (.raised exception)

/-- Hands an observation to the sink; a fault of the sink is noted in the log and goes no
further. -/
def report (sink : Sink) (observation : Observation) : Action Unit := do
  match ← Action.observe (sink.record observation) with
  | .ok () => return
  | .error fault =>
    if fault.isContained then
      Action.log .warning "telemetry_record_failed" [("sink", .text sink.name),
        ("error", .text fault.message)]
    else throw fault

end Sink

end Multitarget
