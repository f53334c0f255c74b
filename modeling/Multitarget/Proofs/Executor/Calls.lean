import Multitarget.Proofs.Executor.Course
import Multitarget.Proofs.Executor.Verdict

/-!
# What is called

A request makes one call, of the operation that it and the target select and with what the
project says, if the project is routed there and has files. It makes no other, and none
without a scratch context or of something that cannot be called.
-/

namespace Multitarget

namespace Request

/-- The files that a request hands to a backend. -/
def files (project : Project) : Request → List ProjectFile
  | .primary _ => project.files
  | .compile _ => project.files
  | .complete _ _ => project.files.take 1
  | .highlight => project.files

end Request

theorem Primary.of_callFor {operation : Primary} {project : Project} {files : List SourceHandle}
    {call : Call} (made : operation.callFor project files = some call) :
    call.handles = files ∧ call.contexts = files.map SourceHandle.context := by
  cases operation with
  | run | test | compileClasses =>
      obtain rfl := Option.some.inj made
      exact ⟨rfl, by simp [Call.contexts, Call.handles]⟩
  | translate translator =>
      cases translator with
      | js =>
          obtain rfl := Option.some.inj made
          exact ⟨rfl, by simp [Call.contexts, Call.handles]⟩
      | wasm debugInfo =>
          obtain ⟨variant, _, rfl⟩ := Option.map_eq_some_iff.mp made
          exact ⟨rfl, by simp [Call.contexts, Call.handles]⟩

theorem Primary.of_call? {operation : Primary} {project : Project} {context : ContextId}
    {call : Call} (made : operation.call? project context = some call) :
    call.handles = project.files.map (SourceHandle.ofFile context) ∧ call.BoundTo context := by
  unfold call? at made
  split at made
  next =>
    obtain ⟨handles, contexts⟩ := of_callFor made
    refine ⟨handles, ?_⟩
    intro other listed
    rw [contexts, SourceHandle.ofProject, List.map_map] at listed
    obtain ⟨file, _, rfl⟩ := List.mem_map.mp listed
    rfl
  next => simp at made

namespace Request

variable {project : Project} {context : ContextId} {call : Call}

/-- A call is given the files that the request hands over, and is bound to the context. -/
theorem of_call? {request : Request} (made : request.call? project context = some call) :
    call.handles = (request.files project).map (SourceHandle.ofFile context) ∧
      call.BoundTo context := by
  cases request with
  | primary operation => exact Primary.of_call? made
  | compile output => exact Primary.of_call? made
  | highlight => exact Primary.of_call? made
  | complete line column =>
      cases listed : project.files with
      | nil => simp [call?, SourceHandle.ofProject, listed] at made
      | cons file rest =>
          simp only [call?, SourceHandle.ofProject, listed, List.map_cons] at made
          split at made
          next =>
            obtain rfl := Option.some.inj made
            refine ⟨by simp [Call.handles, files, listed], ?_⟩
            intro other bound
            simp only [Call.contexts, Call.handles, List.map_cons, List.map_nil, List.cons_append,
              List.nil_append, List.mem_cons, List.not_mem_nil, or_false] at bound
            rcases bound with rfl | rfl <;> rfl
          next => simp at made

/-- An operation refuses a project of another family. -/
theorem perform_elsewhere {request : Request} {operation : Primary} (executor : Executor)
    (session : Session) (primary : request.primary? = some operation)
    (elsewhere : project.target.family ≠ operation.family) :
    (request.perform executor project session).1 =
      .error (.failure (.routing project.target.name)) := by
  obtain ⟨events, yielded, _⟩ := Primary.shaped_elsewhere executor elsewhere
  have refused := Primary.perform_of_shaped_error executor (yielded session)
  cases request with
  | primary own =>
      obtain rfl := Option.some.inj primary
      rw [perform, map_run, refused]
      rfl
  | compile output =>
      obtain rfl := Option.some.inj primary
      have failed : executor.compileClasses project session = (.error _, _) := refused
      rw [perform, map_run, Executor.compile, bind_of_error failed]
      rfl
  | complete line column => simp [primary?] at primary
  | highlight => simp [primary?] at primary

/-- A request makes the call it is answered by, with the files of the project in order, if there is
a context for it and something to be called; it makes no other. An operation refuses a project of
another family, and diagnostics are asked of the family of the project. -/
theorem calls_perform (executor : Executor) (project : Project) (session : Session)
    (request : Request) :
    Trace.calls (request.perform executor project session).2.trace =
      Trace.calls session.trace ++
        executor.callsOf session (request.call? project session.nextContext) ∧
    (∀ call ∈ request.call? project session.nextContext, call.handles =
      (request.files project).map fun file =>
        ⟨file.name, SourceHandle.normalize file.text, session.nextContext⟩) ∧
    (∀ operation ∈ request.primary?, project.target.family ≠ operation.family →
      (request.perform executor project session).1 =
        .error (.failure (.routing project.target.name))) ∧
    project.target.highlighted.family = project.target.family := by
  refine ⟨?_, ?_, ?_, project.target.family_highlighted⟩
  · exact (request.perform_serves executor project session).calls
  · intro call made
    exact (of_call? made).1
  · intro operation primary elsewhere
    exact perform_elsewhere executor session primary elsewhere

/-- A project that is to be run is handed to the backend, and one that is to be translated is
not. -/
theorem calls_of_run :
    Trace.calls ((Request.primary (.run false)).perform (Scripted.executor [])
        (Project.single .java) Session.fresh).2.trace =
      [.run [⟨"File.kt", "", 0⟩] false ""] ∧
    ((Request.primary (.run false)).perform (Scripted.executor [])
        (Project.single .js) Session.fresh).1 =
      .error (.failure (.routing "js")) := by
  obtain ⟨called, _, _, _⟩ := calls_perform (Scripted.executor []) (Project.single .java)
    Session.fresh (.primary (.run false))
  obtain ⟨_, _, refused, _⟩ := calls_perform (Scripted.executor []) (Project.single .js)
    Session.fresh (.primary (.run false))
  refine ⟨called.trans (by decide +kernel), refused (.run false) rfl (by decide)⟩

/-- Without a scratch context nothing is called, and nothing is called that is not there. -/
theorem uncalled_without_context :
    ∃ exception,
      (Project.single .java).target.family = (Primary.run false).family ∧
      (Project.single .java).files ≠ [] ∧
      Trace.calls ((Request.primary (.run false)).perform
        { Scripted.executor [] with scratch := ⟨none, some exception⟩ }
        (Project.single .java) Session.fresh).2.trace = [] ∧
      Trace.calls ((Request.primary (.run false)).perform
        { Scripted.executor [] with
          backends := { (Scripted.executor []).backends with run := .absent exception } }
        (Project.single .java) Session.fresh).2.trace = [] :=
  ⟨default, by decide, by decide, by decide +kernel, by decide +kernel⟩

end Request

end Multitarget
