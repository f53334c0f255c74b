import Multitarget.Proofs.Executor.Answer

/-!
# Requests

What an executor can be asked to do with a project, and the call of a backend that each
request is answered by. Requests are served one after another, each by an executor of its
own: a backend or a sink that behaves differently from call to call is one that differs from
request to request.
-/

namespace Multitarget

/-- What an executor can be asked to do with a project. -/
inductive Request where
  | primary (operation : Primary)
  | compile (output : String)
  | complete (line column : Int)
  | highlight
  deriving DecidableEq, Repr

/-- What comes of a request. -/
inductive Response where
  | outcome (outcome : Outcome)
  | compiled (response : CompileResponse)
  | proposals (reply : Reply)
  | diagnostics (diagnostics : Diagnostics)

/-- The operation whose diagnostics are highlighted for a target. -/
def Target.highlighted (target : Target) : Primary :=
  match target.family with
  | .jvm => .compileClasses
  | .js => .translate .js
  | .wasm => .translate (.wasm false)

theorem Target.family_highlighted (target : Target) :
    target.highlighted.family = target.family := by
  cases target <;> rfl

/-- The call that an operation makes for a project inside a context: none for a project of another
family, and none for a project without files. -/
def Primary.call? (operation : Primary) (project : Project) (context : ContextId) : Option Call :=
  if project.target.family = operation.family ∧ project.files ≠ [] then
    operation.callFor project (SourceHandle.ofProject context project)
  else none

namespace Request

/-- Does what a request asks for. -/
def perform (executor : Executor) (project : Project) : Request → Action Response
  | .primary operation => .outcome <$> operation.perform executor project
  | .compile output => .compiled <$> executor.compile project output
  | .complete line column => .proposals <$> executor.complete project line column
  | .highlight => .diagnostics <$> executor.highlight project

/-- The primary operation that a request is for, with a report of what comes of it. -/
def primary? : Request → Option Primary
  | .primary operation => some operation
  | .compile _ => some .compileClasses
  | .complete _ _ => none
  | .highlight => none

/-- The call that a request makes for a project inside a context. Completion is asked for the first
file alone, and only at a position in it. -/
def call? (project : Project) (context : ContextId) : Request → Option Call
  | .primary operation => operation.call? project context
  | .compile _ => Primary.compileClasses.call? project context
  | .complete line column =>
      match SourceHandle.ofProject context project with
      | [] => none
      | file :: _ =>
          if file.containsPosition line column then
            some (.complete file line column project.target context)
          else none
  | .highlight => project.target.highlighted.call? project context

end Request

/-- Whether there is something to be called. -/
def Operation.isReady {α : Type} : Operation α → Bool
  | .ready _ => true
  | .absent _ => false
  | .unfit _ => false

/-- Whether backends have the operation that a call is of. -/
def Backends.canTake (backends : Backends) : Call → Bool
  | .run _ _ _ => backends.run.isReady
  | .test _ _ => backends.test.isReady
  | .compile _ _ => backends.compile.isReady
  | .translateJs _ _ => backends.translateJs.isReady
  | .translateWasm _ _ _ _ => backends.translateWasm.isReady
  | .complete _ _ _ _ _ => backends.complete.isReady

/-- The calls that come of one that is to be made: none without a scratch context, and none of an
operation that the backends do not have. -/
def Executor.callsOf (executor : Executor) (session : Session) (call : Option Call) : List Call :=
  if (Scratch.acquire executor.scratch session).1.isOk then
    call.toList.filter executor.backends.canTake
  else []

/-- Of an operation with its arguments put in, the call is made that the operation can take. -/
theorem Operation.calls_map {α β : Type} {backends : Backends} {call : Call} {known : Operation α}
    (change : α → β) (taken : backends.canTake call = known.isReady) :
    (known.map change).calls (some call) = [call].filter backends.canTake := by
  cases known <;> simp [map, calls, taken, isReady]

theorem Primary.calls_of_offers {operation : Primary} {backends : Backends} {project : Project}
    {files : List SourceHandle} {offered : Operation (Answer Reply)}
    (offers : operation.Offers backends project files offered) :
    offered.calls (operation.callFor project files) =
      (operation.callFor project files).toList.filter backends.canTake := by
  cases operation with
  | run | test | compileClasses =>
      subst offers
      exact Operation.calls_map _ rfl
  | translate translator =>
      cases translator with
      | js =>
          subst offers
          exact Operation.calls_map _ rfl
      | wasm debugInfo =>
          obtain ⟨variant, selected, rfl⟩ := offers
          simp only [callFor, Translator.callFor, selected, Option.map_some]
          exact Operation.calls_map _ rfl

/-! ## Requests in a row -/

/-- A request with the project it is about and the executor that serves it. -/
structure Turn where
  executor : Executor
  project : Project
  request : Request

namespace Turn

/-- Does what is asked for. -/
def perform (turn : Turn) : Action Response :=
  turn.request.perform turn.executor turn.project

/-- Does what is asked for one after another, and gives how each turn ended. -/
def performAll : List Turn → Action (List (Except Fault Response))
  | [] => return []
  | turn :: rest => do
    let ending ← Action.observe turn.perform
    return ending :: (← performAll rest)

@[simp] theorem performAll_nil (session : Session) :
    performAll [] session = (.ok [], session) := rfl

theorem performAll_cons (turn : Turn) (rest : List Turn) (session : Session) :
    performAll (turn :: rest) session =
      ((performAll rest (turn.perform session).2).1.map ((turn.perform session).1 :: ·),
        (performAll rest (turn.perform session).2).2) := by
  rw [performAll, bind_of_ok (Action.observe_run turn.perform session)]
  exact map_run _ _ _

end Turn

end Multitarget
