import Multitarget.Proofs.Executor.Calls
import Multitarget.Proofs.Session.Phase

/-!
# Scratch contexts of requests

However its backend behaves, a request opens at most one scratch context, calls inside it
only, and releases it before it reports and writes. So in a row of requests there is one
context open at every call, and all contexts differ.
-/

namespace Multitarget

theorem Executor.mem_callsOf {executor : Executor} {session : Session} {call : Option Call}
    {made : Call} (present : made ∈ executor.callsOf session call) : call = some made := by
  unfold callsOf at present
  split at present
  next => exact Option.mem_toList.mp ((List.mem_filter.mp present).1)
  next => simp at present

/-! ## Phases -/

/-- A request goes through the phases of its context, whose number is the next one. -/
theorem Session.Serves.phases {called : List Call} {reported : List Event}
    {before after : Session} (serves : before.Serves called reported after)
    (bound : ∀ call ∈ called, call.BoundTo before.nextContext) :
    ∃ events last, after.trace = before.trace ++ events ∧ Phase.Run .before events last ∧
      last.isOpen = false ∧ ∃ count, after.nextContext = before.nextContext + count ∧
        Trace.opened events = List.range' before.nextContext count := by
  cases serves with
  | idle uncalled leaves =>
      obtain ⟨events, outer, noted, contexts⟩ := leaves
      have closed : Phase.before.isOpen = false := rfl
      obtain ⟨last, closedLast, run⟩ := Phase.run_outer outer closed
      exact ⟨events, last, noted, run, closedLast, 0, contexts, outer.opened⟩
  | inContext made outer noted contexts =>
      have closed : Phase.after.isOpen = false := rfl
      obtain ⟨last, closedLast, run⟩ := Phase.run_outer outer closed
      have run := (((Phase.run_acquired before.nextContext).append
        (Phase.run_inner made bound)).append (Phase.run_released _)).append run
      refine ⟨_, last, noted, run, closedLast, 1, contexts, ?_⟩
      simp only [Trace.opened_append, made.opened, outer.opened]
      rfl

namespace Turn

/-- What a turn notes. -/
def noted (turn : Turn) (session : Session) : List Event :=
  (turn.perform session).2.trace.drop session.trace.length

/-- What each turn of a row notes. -/
def segments : List Turn → Session → List (List Event)
  | [], _ => []
  | turn :: rest, session => turn.noted session :: segments rest (turn.perform session).2

/-- A turn adds what it notes, which keeps to one context with the next number. -/
theorem perform_scoped (turn : Turn) (session : Session) :
    (turn.perform session).2.trace = session.trace ++ turn.noted session ∧
    Trace.Scoped (turn.noted session) ∧
    ∃ count, (turn.perform session).2.nextContext = session.nextContext + count ∧
      Trace.opened (turn.noted session) = List.range' session.nextContext count := by
  have served := turn.request.perform_serves turn.executor turn.project session
  have bound : ∀ call ∈ turn.executor.callsOf session
      (turn.request.call? turn.project session.nextContext), call.BoundTo session.nextContext :=
    fun call made => (Request.of_call? (Executor.mem_callsOf made)).2
  obtain ⟨events, last, added, run, closed, opened⟩ := served.phases bound
  have same : turn.noted session = events := by
    rw [noted, perform, added, List.drop_left]
  rw [same]
  exact ⟨added, run.scoped closed, opened⟩

end Turn

/-- At a call in a row of requests one context is open, and the call is bound to it. -/
theorem Trace.open_of_called {segments : List (List Event)}
    (keeping : ∀ segment ∈ segments, Scoped segment) {earlier later : List Event} {call : Call}
    (split : segments.flatten = earlier ++ .called call :: later) :
    ∃ context, opened earlier = released earlier ++ [context] ∧ call.BoundTo context := by
  induction segments generalizing earlier with
  | nil => simp at split
  | cons segment rest ih =>
      have mine := keeping segment List.mem_cons_self
      have others := fun other listed => keeping other (List.mem_cons_of_mem segment listed)
      rw [List.flatten_cons] at split
      rcases List.append_eq_append_iff.mp split with
        ⟨between, rfl, remaining⟩ | ⟨between, here, remaining⟩
      · obtain ⟨context, openNow, bound⟩ := ih others remaining
        refine ⟨context, ?_, bound⟩
        rw [opened_append, released_append, openNow, mine.released, List.append_assoc]
      · cases between with
        | nil =>
            -- No request starts with a call.
            obtain ⟨context, openNow, _⟩ := @ih others [] remaining.symm
            simp [opened, released] at openNow
        | cons event behind =>
            obtain ⟨rfl, rfl⟩ := List.cons.inj remaining
            obtain ⟨context, openNow, unreleased, bound⟩ := mine.calls earlier call behind here
            exact ⟨context, by rw [openNow, unreleased, List.nil_append], bound⟩

namespace Turn

theorem performAll_segments (turns : List Turn) (session : Session) :
    (performAll turns session).2.trace = session.trace ++ (segments turns session).flatten := by
  induction turns generalizing session with
  | nil => simp [segments]
  | cons turn rest ih =>
      rw [performAll_cons, ih, (turn.perform_scoped session).1, segments, List.flatten_cons,
        List.append_assoc]

theorem segments_scoped (turns : List Turn) (session : Session) :
    ∀ segment ∈ segments turns session, Trace.Scoped segment := by
  induction turns generalizing session with
  | nil => simp [segments]
  | cons turn rest ih =>
      intro segment listed
      rcases List.mem_cons.mp listed with rfl | later
      · exact (turn.perform_scoped session).2.1
      · exact ih _ segment later

/-- The contexts of requests in a row are numbered in order. -/
theorem opened_segments (turns : List Turn) (session : Session) :
    ∃ count, Trace.opened (segments turns session).flatten =
      List.range' session.nextContext count := by
  induction turns generalizing session with
  | nil => exact ⟨0, rfl⟩
  | cons turn rest ih =>
      obtain ⟨_, _, count, contexts, opened⟩ := turn.perform_scoped session
      obtain ⟨others, openedLater⟩ := ih (turn.perform session).2
      refine ⟨count + others, ?_⟩
      rw [segments, List.flatten_cons, Trace.opened_append, opened, openedLater, contexts,
        List.range'_append_1]

/-- What requests in a row note is what each of them notes; each keeps to one context, opens it
under a new number and releases it before anything is reported or written. So at every call one
context is open, it was not released, and the call is bound to it. -/
theorem performAll_scoped (turns : List Turn) (session : Session) :
    (performAll turns session).2.trace = session.trace ++ (segments turns session).flatten ∧
    (∀ segment ∈ segments turns session, Trace.Scoped segment) ∧
    (∃ count, Trace.opened (segments turns session).flatten =
      List.range' session.nextContext count) ∧
    ∀ earlier call later, (segments turns session).flatten = earlier ++ .called call :: later →
      ∃ context, Trace.opened earlier = Trace.released earlier ++ [context] ∧
        context ∉ Trace.released earlier ∧ call.BoundTo context := by
  obtain ⟨count, opened⟩ := opened_segments turns session
  refine ⟨performAll_segments turns session, segments_scoped turns session, ⟨count, opened⟩, ?_⟩
  intro earlier call later split
  obtain ⟨context, openNow, bound⟩ :=
    Trace.open_of_called (segments_scoped turns session) split
  refine ⟨context, openNow, ?_, bound⟩
  have distinct : (Trace.opened (segments turns session).flatten).Nodup :=
    opened ▸ List.nodup_range'
  rw [split, Trace.opened_append, openNow] at distinct
  intro closed
  have twice := List.nodup_append.mp (List.nodup_append.mp distinct).1
  exact twice.2.2 context closed context List.mem_cons_self rfl

/-- A request to run a project whose backend is interrupted from the keyboard. -/
def interrupted : Turn where
  executor := Scripted.executor
    [("jvm.run", .error (.mk "KeyboardInterrupt" (.interrupt "") none none false))]
  project := .single .java
  request := .primary (.run false)

/-- An interrupt passes on what it stops, and the context is released even so. -/
theorem interrupted_scoped :
    (interrupted.perform Session.fresh).1.isOk = false ∧
    Trace.calls (interrupted.noted Session.fresh) = [.run [⟨"File.kt", "", 0⟩] false ""] ∧
    Trace.Scoped (interrupted.noted Session.fresh) ∧
    Trace.opened (segments [interrupted, interrupted] Session.fresh).flatten = [0, 1] := by
  obtain ⟨_, keeping, _, _⟩ := performAll_scoped [interrupted, interrupted] Session.fresh
  have first : Trace.Scoped (interrupted.noted Session.fresh) := keeping _ List.mem_cons_self
  exact ⟨by decide +kernel, by decide +kernel, first, by decide +kernel⟩

end Turn

end Multitarget
