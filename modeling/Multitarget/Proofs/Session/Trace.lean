import Multitarget.Proofs.Session.Action
import Multitarget.Session.Trace

/-!
# What actions leave in the trace

The events of a trace are told apart by what they are about: calls of backends, telemetry,
writing, and the rest of the log. A steady action that makes calls notes those calls and
nothing else but records of the log.
-/

namespace Multitarget

/-- Whether a record comes from telemetry, which signs its records in their first field. -/
def Log.Record.isTelemetry (record : Log.Record) : Bool :=
  record.fields.head?.any fun field => field.1 == "component"

/-- The contexts that a call is bound to, by its files and by itself. -/
def Call.contexts (call : Call) : List ContextId :=
  call.handles.map SourceHandle.context ++
    match call with
    | .complete _ _ _ _ context => [context]
    | _ => []

/-- Whether a call is bound to one context only. -/
def Call.BoundTo (context : ContextId) (call : Call) : Prop :=
  ∀ other ∈ call.contexts, other = context

namespace Event

/-- Whether an event is a call of a backend. -/
def isCall : Event → Bool
  | .called _ => true
  | _ => false

/-- Whether an event hands an observation to somebody. -/
def isTelemetry : Event → Bool
  | .observed _ => true
  | .attached _ _ => true
  | .logged record => record.isTelemetry
  | _ => false

/-- Whether an event is a record of the log that does not come from telemetry. -/
def isRecord : Event → Bool
  | .logged record => !record.isTelemetry
  | _ => false

/-- Whether an event writes a file or makes sure of a directory for one. -/
def isWriting : Event → Bool
  | .prepared _ => true
  | .stored _ => true
  | _ => false

end Event

namespace Trace

/-- What was handed to somebody as an observation. -/
def telemetry (trace : List Event) : List Event :=
  trace.filter Event.isTelemetry

@[simp] theorem calls_append (first second : List Event) :
    calls (first ++ second) = calls first ++ calls second :=
  List.filterMap_append

@[simp] theorem telemetry_append (first second : List Event) :
    telemetry (first ++ second) = telemetry first ++ telemetry second :=
  List.filter_append ..

@[simp] theorem opened_append (first second : List Event) :
    opened (first ++ second) = opened first ++ opened second :=
  List.filterMap_append

@[simp] theorem released_append (first second : List Event) :
    released (first ++ second) = released first ++ released second :=
  List.filterMap_append

/-- Some calls, and else nothing but records of the log. -/
structure Inner (called : List Call) (events : List Event) : Prop where
  calls : Trace.calls events = called
  kinds : ∀ event ∈ events, event.isCall = true ∨ event.isRecord = true

/-- Some telemetry, and else nothing but writing and records of the log. -/
structure Outer (reported : List Event) (events : List Event) : Prop where
  telemetry : Trace.telemetry events = reported
  kinds : ∀ event ∈ events,
    event.isTelemetry = true ∨ event.isWriting = true ∨ event.isRecord = true

theorem Inner.nil : Inner [] [] := ⟨rfl, by simp⟩

theorem Inner.append {called more : List Call} {first second : List Event}
    (former : Inner called first) (latter : Inner more second) :
    Inner (called ++ more) (first ++ second) where
  calls := by rw [calls_append, former.calls, latter.calls]
  kinds event present := by
    rcases List.mem_append.mp present with early | late
    · exact former.kinds event early
    · exact latter.kinds event late

theorem Inner.of_records {records : List Log.Record}
    (plain : ∀ record ∈ records, record.isTelemetry = false) :
    Inner [] (records.map .logged) where
  calls := by simp [Trace.calls]
  kinds event present := by
    obtain ⟨record, listed, rfl⟩ := List.mem_map.mp present
    exact .inr (by simp [Event.isRecord, plain record listed])

theorem Outer.nil : Outer [] [] := ⟨rfl, by simp⟩

theorem Outer.append {reported more first second : List Event}
    (former : Outer reported first) (latter : Outer more second) :
    Outer (reported ++ more) (first ++ second) where
  telemetry := by rw [telemetry_append, former.telemetry, latter.telemetry]
  kinds event present := by
    rcases List.mem_append.mp present with early | late
    · exact former.kinds event early
    · exact latter.kinds event late

/-- Where nothing is called there are only records. -/
theorem Inner.isRecord {events : List Event} (inner : Inner [] events) {event : Event}
    (present : event ∈ events) : event.isRecord = true := by
  rcases inner.kinds event present with called | record
  · cases event with
    | called call =>
        have listed : call ∈ Trace.calls events :=
          List.mem_filterMap.mpr ⟨.called call, present, rfl⟩
        simp [inner.calls] at listed
    | _ => simp [Event.isCall] at called
  · exact record

theorem Inner.outer {events : List Event} (inner : Inner [] events) : Outer [] events where
  telemetry := by
    rw [Trace.telemetry, List.filter_eq_nil_iff]
    intro event present
    have record := inner.isRecord present
    cases event <;> simp_all [Event.isRecord, Event.isTelemetry]
  kinds event present := .inr (.inr (inner.isRecord present))

/-- A view that shows nothing of telemetry, writing and records shows nothing here. -/
theorem Outer.filterMap_eq_nil {α : Type} {view : Event → Option α} {reported events : List Event}
    (outer : Outer reported events)
    (blind : ∀ event : Event,
      event.isTelemetry = true ∨ event.isWriting = true ∨ event.isRecord = true →
        view event = none) :
    events.filterMap view = [] :=
  List.filterMap_eq_nil_iff.mpr fun event present => blind event (outer.kinds event present)

/-- A view that shows nothing of calls and records shows nothing here. -/
theorem Inner.filterMap_eq_nil {α : Type} {view : Event → Option α} {called : List Call}
    {events : List Event} (inner : Inner called events)
    (blind : ∀ event : Event, event.isCall = true ∨ event.isRecord = true → view event = none) :
    events.filterMap view = [] :=
  List.filterMap_eq_nil_iff.mpr fun event present => blind event (inner.kinds event present)

theorem Outer.calls {reported events : List Event} (outer : Outer reported events) :
    Trace.calls events = [] := by
  apply outer.filterMap_eq_nil
  intro event kind
  cases event <;> simp_all [Event.isTelemetry, Event.isWriting, Event.isRecord]

theorem Outer.opened {reported events : List Event} (outer : Outer reported events) :
    Trace.opened events = [] := by
  apply outer.filterMap_eq_nil
  intro event kind
  cases event <;> simp_all [Event.isTelemetry, Event.isWriting, Event.isRecord]

theorem Outer.released {reported events : List Event} (outer : Outer reported events) :
    Trace.released events = [] := by
  apply outer.filterMap_eq_nil
  intro event kind
  cases event <;> simp_all [Event.isTelemetry, Event.isWriting, Event.isRecord]

theorem Inner.opened {called : List Call} {events : List Event} (inner : Inner called events) :
    Trace.opened events = [] := by
  apply inner.filterMap_eq_nil
  intro event kind
  cases event <;> simp_all [Event.isCall, Event.isRecord]

theorem Inner.released {called : List Call} {events : List Event} (inner : Inner called events) :
    Trace.released events = [] := by
  apply inner.filterMap_eq_nil
  intro event kind
  cases event <;> simp_all [Event.isCall, Event.isRecord]

theorem Inner.telemetry {called : List Call} {events : List Event} (inner : Inner called events) :
    Trace.telemetry events = [] := by
  rw [Trace.telemetry, List.filter_eq_nil_iff]
  intro event present
  rcases inner.kinds event present with call | record <;>
    cases event <;> simp_all [Event.isCall, Event.isRecord, Event.isTelemetry]

end Trace

namespace Action

variable {α β : Type}

/-- An action ends the same way in every session, and notes these calls and else nothing but
records of the log. -/
def Makes (action : Action α) (ending : Except Fault α) (called : List Call) : Prop :=
  ∃ events, action.Yields ending events ∧ Trace.Inner called events

theorem makes_pure (value : α) : (pure value : Action α).Makes (.ok value) [] :=
  ⟨_, yields_pure value, .nil⟩

theorem makes_throw (fault : Fault) : (throw fault : Action α).Makes (.error fault) [] :=
  ⟨_, yields_throw fault, .nil⟩

theorem makes_call (call : Call) : (emit (.called call)).Makes (.ok ()) [call] :=
  ⟨_, yields_emit _, rfl, by simp [Event.isCall]⟩

theorem makes_log (level : Log.Level) (event : String) (fields : List (String × Json.Document))
    (plain : Log.Record.isTelemetry ⟨level, event, fields⟩ = false) :
    (log level event fields).Makes (.ok ()) [] :=
  ⟨_, yields_log level event fields, rfl, by simp [Event.isRecord, plain]⟩

theorem makes_logAll {records : List Log.Record}
    (plain : ∀ record ∈ records, record.isTelemetry = false) :
    (logAll records).Makes (.ok ()) [] :=
  ⟨_, yields_logAll records, .of_records plain⟩

namespace Makes

variable {action : Action α} {next : α → Action β} {value : α} {fault : Fault}
  {ending : Except Fault α} {later : Except Fault β} {called more : List Call}

theorem of_eq {other : Action α} (made : action.Makes ending called) (same : other = action) :
    other.Makes ending called :=
  same ▸ made

theorem bind_ok (first : action.Makes (.ok value) called)
    (second : (next value).Makes later more) :
    (action >>= next).Makes later (called ++ more) := by
  obtain ⟨events, yielded, inner⟩ := first
  obtain ⟨others, yieldedLater, innerLater⟩ := second
  exact ⟨_, yielded.bind_ok yieldedLater, inner.append innerLater⟩

theorem bind_error (first : action.Makes (.error fault) called) :
    (action >>= next).Makes (.error fault) called := by
  obtain ⟨events, yielded, inner⟩ := first
  exact ⟨_, yielded.bind_error, inner⟩

/-- What follows an action is run on its value, if it has one. -/
theorem bind {following : α → Except Fault β} (first : action.Makes ending called)
    (second : ∀ value, (next value).Makes (following value) []) :
    (action >>= next).Makes (ending >>= following) called := by
  cases ending with
  | error fault => exact first.bind_error
  | ok value =>
      have all := first.bind_ok (second value)
      rw [List.append_nil] at all
      exact all

theorem map (change : α → β) (made : action.Makes ending called) :
    (change <$> action).Makes (ending.map change) called := by
  obtain ⟨events, yielded, inner⟩ := made
  exact ⟨_, yielded.map change, inner⟩

end Makes

theorem makes_failLogged (failure : Failure) :
    (failLogged failure : Action α).Makes (.error (.failure failure)) [] :=
  (makes_log _ _ _ rfl).bind_ok (makes_throw _)

end Action

end Multitarget
