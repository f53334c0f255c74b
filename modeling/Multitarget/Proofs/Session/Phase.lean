import Multitarget.Proofs.Session.Scratch

/-!
# Phases of a request

Before, inside and after its scratch context a request may do different things. What it
has noted tells the phase that it is in, so a request that goes through the phases in
order keeps its calls inside the context and all that is reported or written after it.
-/

namespace Multitarget

/-- Events of which at most one context is opened, and released once; calls are made inside it and
bound to it, and nothing is reported or written before it is released. -/
structure Trace.Scoped (events : List Event) : Prop where
  once : (opened events).length ≤ 1
  released : released events = opened events
  calls : ∀ earlier call later, events = earlier ++ .called call :: later →
    ∃ context, opened earlier = [context] ∧ Trace.released earlier = [] ∧ call.BoundTo context
  outside : ∀ earlier event later, events = earlier ++ event :: later →
    event.isTelemetry = true ∨ event.isWriting = true →
      Trace.released earlier = opened events

namespace Event

/-- Neither records nor what is reported or written open or release a context. -/
theorem opens_none {event : Event}
    (kind : event.isTelemetry = true ∨ event.isWriting = true ∨ event.isRecord = true) :
    Trace.opened [event] = [] ∧ Trace.released [event] = [] := by
  cases event with
  | opened | released => simp [isTelemetry, isWriting, isRecord] at kind
  | _ => exact ⟨rfl, rfl⟩

theorem not_isRecord {event : Event}
    (kind : event.isTelemetry = true ∨ event.isWriting = true) : event.isRecord = false := by
  cases event <;> simp_all [isTelemetry, isWriting, isRecord]

end Event

/-- How far a request is with its context. -/
inductive Phase where
  | before
  | inside (context : ContextId)
  | after

namespace Phase

/-- Whether a context is open. -/
def isOpen : Phase → Bool
  | .inside _ => true
  | .before => false
  | .after => false

/-- What may happen in a phase, and the phase that follows. -/
inductive Step : Phase → Event → Phase → Prop where
  | acquire (context : ContextId) : Step .before (.opened context) (.inside context)
  | call {context : ContextId} {call : Call} (bound : call.BoundTo context) :
      Step (.inside context) (.called call) (.inside context)
  | release (context : ContextId) : Step (.inside context) (.released context) .after
  | record {phase : Phase} {event : Event} (plain : event.isRecord = true) :
      Step phase event phase
  | report {phase : Phase} {event : Event} (outside : phase.isOpen = false)
      (kind : event.isTelemetry = true ∨ event.isWriting = true) : Step phase event .after

/-- Steps one after another. -/
inductive Run : Phase → List Event → Phase → Prop where
  | nil (phase : Phase) : Run phase [] phase
  | cons {first next last : Phase} {event : Event} {rest : List Event}
      (step : Step first event next) (run : Run next rest last) : Run first (event :: rest) last

/-- What the events so far say about the phase. -/
def Describes (seen : List Event) : Phase → Prop
  | .before => Trace.opened seen = [] ∧ Trace.released seen = []
  | .inside context => Trace.opened seen = [context] ∧ Trace.released seen = []
  | .after => Trace.released seen = Trace.opened seen ∧ (Trace.opened seen).length ≤ 1

variable {first next last : Phase} {seen events more : List Event}

theorem Describes.of_not_isOpen (described : first.Describes seen)
    (closed : first.isOpen = false) :
    Trace.released seen = Trace.opened seen ∧ (Trace.opened seen).length ≤ 1 := by
  cases first with
  | before =>
      obtain ⟨opened, released⟩ := described
      simp [opened, released]
  | inside context => simp [isOpen] at closed
  | after => exact described

theorem Step.describes {event : Event} (step : Step first event next)
    (described : first.Describes seen) : next.Describes (seen ++ [event]) := by
  cases step with
  | acquire context =>
      obtain ⟨opened, released⟩ := described
      simp only [Describes, Trace.opened_append, Trace.released_append, opened, released]
      exact ⟨rfl, rfl⟩
  | call bound =>
      obtain ⟨opened, released⟩ := described
      simp only [Describes, Trace.opened_append, Trace.released_append, opened, released]
      exact ⟨rfl, rfl⟩
  | release context =>
      obtain ⟨opened, released⟩ := described
      simp only [Describes, Trace.opened_append, Trace.released_append, opened, released]
      exact ⟨rfl, Nat.le_refl 1⟩
  | record plain =>
      obtain ⟨opensNone, releasesNone⟩ := Event.opens_none (.inr (.inr plain))
      cases first <;>
        simpa only [Describes, Trace.opened_append, Trace.released_append, opensNone,
          releasesNone, List.append_nil] using described
  | report outside kind =>
      obtain ⟨opensNone, releasesNone⟩ := Event.opens_none (kind.imp_right .inl)
      simpa only [Describes, Trace.opened_append, Trace.released_append, opensNone,
        releasesNone, List.append_nil] using described.of_not_isOpen outside

theorem Run.describes (run : Run first events last) (described : first.Describes seen) :
    last.Describes (seen ++ events) := by
  induction run generalizing seen with
  | nil phase => simpa using described
  | cons step run ih => simpa using ih (step.describes described)

theorem Run.append (former : Run first events next) (latter : Run next more last) :
    Run first (events ++ more) last := by
  induction former with
  | nil phase => exact latter
  | cons step run ih => exact .cons step (ih latter)

theorem Run.split (run : Run first (events ++ more) last) :
    ∃ next, Run first events next ∧ Run next more last := by
  induction events generalizing first with
  | nil => exact ⟨first, .nil first, run⟩
  | cons event rest ih =>
      cases run with
      | cons step run =>
          obtain ⟨next, former, latter⟩ := ih run
          exact ⟨next, .cons step former, latter⟩

/-- After its context a request opens no other. -/
theorem Run.opens_none_after (run : Run .after events last) : Trace.opened events = [] := by
  induction events with
  | nil => rfl
  | cons event rest ih =>
      cases run with
      | cons step run =>
          rw [← List.singleton_append, Trace.opened_append]
          cases step with
          | record plain => rw [(Event.opens_none (.inr (.inr plain))).1, ih run, List.nil_append]
          | report outside kind =>
              rw [(Event.opens_none (kind.imp_right .inl)).1, ih run, List.nil_append]

/-- A request that goes through the phases keeps to its context. -/
theorem Run.scoped (run : Run .before events last) (closed : last.isOpen = false) :
    Trace.Scoped events := by
  have start : Phase.before.Describes [] := ⟨rfl, rfl⟩
  obtain ⟨released, once⟩ := (run.describes start).of_not_isOpen closed
  refine ⟨once, released, ?_, ?_⟩
  · rintro earlier call later rfl
    obtain ⟨phase, former, latter⟩ := run.split
    have described := former.describes start
    cases latter with
    | cons step _ =>
        cases step with
        | call bound => exact ⟨_, described.1, described.2, bound⟩
        | record plain => simp [Event.isRecord] at plain
        | report _ kind => simp [Event.isTelemetry, Event.isWriting] at kind
  · rintro earlier event later rfl kind
    obtain ⟨phase, former, latter⟩ := run.split
    have described := former.describes start
    cases latter with
    | cons step rest =>
        cases step with
        | report outside _ =>
            rw [← List.singleton_append, Trace.opened_append, Trace.opened_append,
              rest.opens_none_after, (Event.opens_none (kind.imp_right .inl)).1]
            simpa using (described.of_not_isOpen outside).1
        | record plain => simp [Event.not_isRecord kind] at plain
        | acquire | call | release => simp [Event.isTelemetry, Event.isWriting] at kind

/-! ## Events that go through the phases -/

theorem run_acquired (context : ContextId) :
    Run .before (Scratch.acquiredEvents context) (.inside context) :=
  .cons (.acquire context) (.cons (.record rfl) (.nil _))

theorem run_released (context : ContextId) :
    Run (.inside context) (Scratch.releasedEvents context) .after :=
  .cons (.release context) (.cons (.record rfl) (.nil _))

theorem run_inner {context : ContextId} {called : List Call} (inner : Trace.Inner called events)
    (bound : ∀ call ∈ called, call.BoundTo context) :
    Run (.inside context) events (.inside context) := by
  obtain ⟨rfl, kinds⟩ := inner
  induction events with
  | nil => exact .nil _
  | cons event rest ih =>
      have restBound : ∀ call ∈ Trace.calls rest, call.BoundTo context := by
        intro call made
        rw [← List.singleton_append, Trace.calls_append] at bound
        exact bound call (List.mem_append_right _ made)
      have remaining := ih (fun other present => kinds other (List.mem_cons_of_mem _ present))
        restBound
      rcases kinds event List.mem_cons_self with called | plain
      · cases event with
        | called call =>
            have mine : call ∈ Trace.calls (.called call :: rest) := List.mem_cons_self
            exact .cons (.call (bound call mine)) remaining
        | _ => simp [Event.isCall] at called
      · exact .cons (.record plain) remaining

theorem run_outer {reported : List Event} (outer : Trace.Outer reported events)
    (closed : first.isOpen = false) : ∃ last, last.isOpen = false ∧ Run first events last := by
  obtain ⟨rfl, kinds⟩ := outer
  induction events generalizing first with
  | nil => exact ⟨first, closed, .nil first⟩
  | cons event rest ih =>
      have restKinds := fun other present => kinds other (List.mem_cons_of_mem event present)
      have kind := kinds event List.mem_cons_self
      by_cases plain : event.isRecord = true
      · obtain ⟨last, closedLast, run⟩ := ih closed restKinds
        exact ⟨last, closedLast, .cons (.record plain) run⟩
      · have reports : event.isTelemetry = true ∨ event.isWriting = true :=
          kind.imp_right fun rest => rest.resolve_right plain
        have finished : Phase.after.isOpen = false := rfl
        obtain ⟨last, closedLast, run⟩ := ih finished restKinds
        exact ⟨last, closedLast, .cons (.report closed reports) run⟩

end Phase

end Multitarget
