import Multitarget.Command.Line
import Multitarget.Proofs.Command.Loading
import Multitarget.Proofs.Console.Output

/-!
# Command lines that make a request

A command line whose project and configuration can be loaded has an executor serve one request
and presents the response. Nothing is written before that, so what is written and how the
command line ends are decided by the response, or by the fault that came in its place.
-/

namespace Multitarget

/-- The translator that arguments choose for a project: one of the family that its target belongs
to if none is given. -/
def Arguments.translator (arguments : Arguments) (project : Project) : Translator :=
  if arguments.target.getD project.target.family = .wasm then .wasm arguments.debugInfo else .js

theorem Arguments.translate_translator (arguments : Arguments) (executor : Executor)
    (project : Project) : (arguments.translator project).translate executor project =
      if arguments.target.getD project.target.family = .wasm then
        executor.translateWasm project arguments.debugInfo
      else executor.translateJs project := by
  rw [translator]
  split <;> rfl

namespace Command

/-- What a command asks an executor to do with a project; showing the version asks for nothing. -/
def request? (arguments : Arguments) (project : Project) : Command → Option Request
  | .run => some (.primary (.run arguments.byteCode))
  | .test => some (.primary (.test false))
  | .translate => some (.primary (.translate (arguments.translator project)))
  | .compile => some (.compile (FilePath.ofText arguments.output).text)
  | .complete => some (.complete arguments.line arguments.column)
  | .highlight => some .highlight
  | .version => none

/-- The refusal that a command makes of a fault of its request. -/
def explain (arguments : Arguments) : Command → Fault → Option Refusal
  | .run => Refusal.ofFailure
  | .test => Refusal.ofFailure
  | .translate => Refusal.ofFailure
  | .compile => Refusal.ofOutput arguments.output
  | _ => fun _ => none

/-- What a command does with the response to its request. -/
def present (arguments : Arguments) : Command → Response → Action Nat
  | .run, .outcome outcome => Operation.presentRun arguments.asJson outcome
  | .test, .outcome outcome => Operation.presentTest arguments.asJson outcome
  | .translate, .outcome (.execution result) =>
      Operation.presentTranslation arguments.asJson result
  | .compile, .compiled response =>
      Operation.presentCompilation (FilePath.ofText arguments.output) response
  | .complete, .proposals reply => Operation.presentProposals reply
  | .highlight, .diagnostics diagnostics =>
      Operation.presentDiagnostics arguments.asJson diagnostics
  | _, _ => return Refusal.success

/-- The responses that the request of a command can come to. -/
inductive Fits : Command → Response → Prop where
  | run (outcome : Outcome) : Fits .run (.outcome outcome)
  | test (outcome : Outcome) : Fits .test (.outcome outcome)
  | translate (result : Execution) : Fits .translate (.outcome (.execution result))
  | compile (response : CompileResponse) : Fits .compile (.compiled response)
  | complete (reply : Reply) : Fits .complete (.proposals reply)
  | highlight (diagnostics : Diagnostics) : Fits .highlight (.diagnostics diagnostics)

/-- What a command makes of what came of its request. -/
def conclude (command : Command) (arguments : Arguments) : Except Fault Response → Attempt Nat
  | .ok response => liftM (command.present arguments response)
  | .error fault =>
      match command.explain arguments fault with
      | some refusal => throw refusal
      | none => liftM (Action.resume (.error fault) : Action Nat)

variable {α : Type} (command : Command) {arguments : Arguments} {shown : α → Action Nat}

/-- A request whose faults a command explains, with its response presented behind it. -/
theorem explaining_bind (change : α → Response) (action : Action α)
    (same : ∀ value, command.present arguments (change value) = shown value) (session : Session) :
    (Attempt.explaining (command.explain arguments) action >>= fun value =>
        liftM (shown value)) session =
      command.conclude arguments ((change <$> action) session).1
        ((change <$> action) session).2 := by
  have ran := Attempt.explaining_run (command.explain arguments) action session
  rw [map_run]
  cases ended : (action session).1 with
  | ok value =>
      rw [ended] at ran
      rw [Attempt.bind_of_ok ran, ← same]
      rfl
  | error fault =>
      rw [ended, Attempt.explained] at ran
      simp only [Except.map, conclude]
      cases explained : command.explain arguments fault with
      | some refusal =>
          rw [explained] at ran
          exact Attempt.bind_of_refusal ran
      | none =>
          rw [explained] at ran
          exact Attempt.bind_of_fault ran

/-- A request none of whose faults a command explains may as well be made without explaining. -/
theorem lift_bind (change : α → Response) (action : Action α)
    (same : ∀ value, command.present arguments (change value) = shown value)
    (none : ∀ fault, command.explain arguments fault = none) (session : Session) :
    (liftM action >>= fun value => liftM (shown value) : Attempt Nat) session =
      command.conclude arguments ((change <$> action) session).1
        ((change <$> action) session).2 := by
  have ran := Attempt.lift_run action session
  rw [map_run]
  cases ended : (action session).1 with
  | ok value =>
      rw [ended] at ran
      rw [Attempt.bind_of_ok ran, ← same]
      rfl
  | error fault =>
      rw [ended] at ran
      simp only [Except.map, conclude, none fault]
      exact Attempt.bind_of_fault ran

/-- What comes of a request whose values become responses is a response of one of them. -/
theorem exists_of_map {change : α → Response} {action : Action α} {session : Session}
    {response : Response} (answered : ((change <$> action) session).1 = .ok response) :
    ∃ value, change value = response := by
  rw [map_run] at answered
  cases ended : (action session).1 with
  | error fault =>
      rw [ended] at answered
      cases answered
  | ok value =>
      rw [ended] at answered
      exact ⟨value, Except.ok.inj answered⟩

theorem fits_of_perform {command : Command} {arguments : Arguments} {project : Project}
    {executor : Executor} {request : Request} {session : Session} {response : Response}
    (asked : command.request? arguments project = some request)
    (answered : (request.perform executor project session).1 = .ok response) :
    command.Fits response := by
  cases command with
  | run =>
      obtain rfl := Option.some.inj asked
      obtain ⟨outcome, rfl⟩ := exists_of_map answered
      exact .run outcome
  | test =>
      obtain rfl := Option.some.inj asked
      obtain ⟨outcome, rfl⟩ := exists_of_map answered
      exact .test outcome
  | compile =>
      obtain rfl := Option.some.inj asked
      obtain ⟨compiled, rfl⟩ := exists_of_map answered
      exact .compile compiled
  | complete =>
      obtain rfl := Option.some.inj asked
      obtain ⟨reply, rfl⟩ := exists_of_map answered
      exact .complete reply
  | highlight =>
      obtain rfl := Option.some.inj asked
      obtain ⟨diagnostics, rfl⟩ := exists_of_map answered
      exact .highlight diagnostics
  | translate =>
      obtain rfl := Option.some.inj asked
      rw [Request.perform, Primary.perform, ← comp_map] at answered
      obtain ⟨result, rfl⟩ := exists_of_map answered
      exact .translate result
  | version => cases asked

end Command

namespace Operation

variable {command : Command} {surroundings : Surroundings} {arguments : Arguments}
  {project : Project} {executor : Executor} {request : Request} {session ready : Session}

/-- A command that has loaded what it needs concludes from what comes of its request. -/
theorem ofCommand_of_load (asked : command.request? arguments project = some request)
    (loaded : load surroundings arguments session = (.ok (.ok (project, executor)), ready)) :
    ofCommand command surroundings arguments session =
      command.conclude arguments (request.perform executor project ready).1
        (request.perform executor project ready).2 := by
  cases command with
  | run =>
      obtain rfl := Option.some.inj asked
      rw [ofCommand, run, Attempt.bind_of_ok loaded]
      exact Command.explaining_bind .run .outcome _ (fun _ => rfl) ready
  | test =>
      obtain rfl := Option.some.inj asked
      rw [ofCommand, test, Attempt.bind_of_ok loaded]
      exact Command.explaining_bind .test .outcome _ (fun _ => rfl) ready
  | compile =>
      obtain rfl := Option.some.inj asked
      rw [ofCommand, compile, Attempt.bind_of_ok loaded]
      exact Command.explaining_bind .compile .compiled _ (fun _ => rfl) ready
  | complete =>
      obtain rfl := Option.some.inj asked
      rw [ofCommand, complete, Attempt.bind_of_ok loaded]
      exact Command.lift_bind .complete .proposals _ (fun _ => rfl) (fun _ => rfl) ready
  | highlight =>
      obtain rfl := Option.some.inj asked
      rw [ofCommand, highlight, Attempt.bind_of_ok loaded]
      exact Command.lift_bind .highlight .diagnostics _ (fun _ => rfl) (fun _ => rfl) ready
  | translate =>
      obtain rfl := Option.some.inj asked
      have presented (result : Execution) :
          Command.present arguments .translate (.outcome (.execution result)) =
            presentTranslation arguments.asJson result := rfl
      rw [ofCommand, translate, Attempt.bind_of_ok loaded]
      simp only [← arguments.translate_translator]
      rw [Request.perform, Primary.perform, ← comp_map]
      exact Command.explaining_bind .translate (.outcome ∘ .execution) _ presented ready
  | version => cases asked

end Operation

/-! ## Reports -/

namespace CommandLine

/-- The report of a command that ended in a status or a fault after some output. -/
def concluded (output : String) : Except Fault Nat → CommandReport
  | .ok status => ⟨status, output, "", none⟩
  | .error fault => faulted output fault

theorem perform_eq {α : Type} (session : Session) (action : Action α) :
    perform session action = action { session with trace := [] } := rfl

/-- What is written to the console of a refusal. -/
def refusalText (refusal : Refusal) : List Char :=
  Console.layout true
    (Console.Mark.failure.sign :: ' ' :: Console.Markup.passed refusal.message.toList) ++ ['\n']

/-- The report of a command that is refused before it has written anything. -/
def declined (onConsole : Bool) (refusal : Refusal) : CommandReport :=
  if onConsole then ⟨refusal.status, String.ofList (refusalText refusal), "", none⟩
  else ⟨refusal.status, "", "Error: " ++ refusal.message ++ "\n", none⟩

theorem declined_status (onConsole : Bool) (refusal : Refusal) :
    (declined onConsole refusal).status = refusal.status ∧
      (declined onConsole refusal).uncaught = none := by
  cases onConsole <;> exact ⟨rfl, rfl⟩

end CommandLine

/-- A command line that comes to a request: its words are understood and ask for more than help,
and the project and the executor that the request needs are loaded. -/
structure Invocation where
  surroundings : Surroundings
  /-- Whether a refusal is written to the console. -/
  onConsole : Bool
  command : Command
  words : List String
  session : Session
  arguments : Arguments
  project : Project
  executor : Executor
  /-- The session in which the request is served. -/
  ready : Session
  request : Request
  understood : Arguments.ofWords command words = .ok arguments
  isNoHelp : arguments.help = false
  loaded : Operation.load surroundings arguments { session with trace := [] } =
    (.ok (.ok (project, executor)), ready)
  asked : command.request? arguments project = some request

namespace Invocation

variable (invocation : Invocation)

/-- What comes of the request, and the session after it. -/
def served : Except Fault Response × Session :=
  invocation.request.perform invocation.executor invocation.project invocation.ready

/-- How the command line ends. -/
def report : CommandReport :=
  (CommandLine.runCommand invocation.surroundings invocation.onConsole invocation.command
    invocation.words invocation.session).1

/-- Nothing has been written when the request has been served. -/
theorem printed_served : Trace.printed invocation.served.2.trace = [] := by
  have loading := Operation.load_silent invocation.surroundings invocation.arguments
    { invocation.session with trace := [] }
  have loaded : (Operation.load invocation.surroundings invocation.arguments).run
      { invocation.session with trace := [] } = _ := invocation.loaded
  rw [loaded] at loading
  exact (Request.perform_silent _ _ _ invocation.ready).trans loading

variable {invocation} {response : Response} {ending : Except Fault Nat} {text : List Char}
  {fault : Fault} {refusal : Refusal}

/-- The request of a command comes to a response of the kind that it asks for. -/
theorem fits (answered : invocation.served.1 = .ok response) :
    invocation.command.Fits response :=
  Command.fits_of_perform invocation.asked answered

/-- The command runs on a trace that starts anew, as far as what comes of its request leads. -/
theorem performed : CommandLine.perform { invocation.session with trace := [] }
    (Operation.ofCommand invocation.command invocation.surroundings invocation.arguments).run =
      invocation.command.conclude invocation.arguments invocation.served.1 invocation.served.2 :=
  Operation.ofCommand_of_load invocation.asked invocation.loaded

/-- The report of a command line is what its command writes of the response, and how that ends. -/
theorem report_of_prints (answered : invocation.served.1 = .ok response)
    (prints : (invocation.command.present invocation.arguments response).Prints ending text) :
    invocation.report = CommandLine.concluded (String.ofList text) ending := by
  have shown := prints.printed invocation.printed_served
  have ran := invocation.performed
  rw [answered, Command.conclude, Attempt.lift_run, shown.1] at ran
  simp only [report, CommandLine.runCommand, invocation.understood, invocation.isNoHelp, ran,
    Bool.false_eq_true, if_false]
  cases ending with
  | ok status =>
      simp only [Except.map, CommandLine.written, shown.2]
      rfl
  | error fault =>
      simp only [Except.map, CommandLine.written, shown.2]
      rfl

/-- A fault of the request that the command explains is reported as a refusal: its message can
always be written. -/
theorem report_of_refusal (failed : invocation.served.1 = .error fault)
    (explained : invocation.command.explain invocation.arguments fault = some refusal) :
    invocation.report = CommandLine.declined invocation.onConsole refusal := by
  have ran := invocation.performed
  have refused (session : Session) : (throw refusal : Attempt Nat) session =
      (.ok (.error refusal), session) := rfl
  have silent : CommandLine.written invocation.served.2 = "" := by
    rw [CommandLine.written, invocation.printed_served]
    rfl
  rw [failed] at ran
  simp only [Command.conclude, explained, refused] at ran
  simp only [report, CommandLine.runCommand, invocation.understood, invocation.isNoHelp, ran,
    silent, CommandLine.declined, Bool.false_eq_true, if_false]
  cases invocation.onConsole with
  | false => rfl
  | true =>
      have anew : Trace.printed { invocation.served.2 with trace := [] }.trace = [] := rfl
      have shown := (Console.printRefusal_prints refusal.message).printed anew
      rcases ended : Console.printRefusal refusal.message
        { invocation.served.2 with trace := [] } with ⟨ending, after⟩
      rw [ended] at shown
      obtain ⟨rfl, text⟩ := shown
      simp only [if_true, CommandLine.perform_eq, ended, CommandLine.written, text,
        CommandLine.refusalText, String.empty_append]

/-! ## Staged command lines -/

/-- The invocation that a command line is, if it comes to a request. -/
def ofWords? (surroundings : Surroundings) (onConsole : Bool) (command : Command)
    (words : List String) (session : Session) : Option Invocation :=
  match understood : Arguments.ofWords command words with
  | .error _ => none
  | .ok arguments =>
    if isNoHelp : arguments.help = false then
      match loaded : Operation.load surroundings arguments { session with trace := [] } with
      | (.ok (.ok (project, executor)), ready) =>
        match asked : command.request? arguments project with
        | some request => some {
            surroundings, onConsole, command, words, session, arguments, project, executor, ready,
            request, understood, isNoHelp, loaded, asked }
        | none => none
      | _ => none
    else none

end Invocation

/-- A registry whose backends give prepared answers. -/
def Registry.scripted (replies : Scripted.Replies) : Registry :=
  [("fakes", .mk .other [("Backend", .mk (.factory "Backend" (.ok
    ⟨"Backend", (Scripted.executor replies).backends, ⟨none, none⟩⟩)) [])])]

/-- A session with a project of one empty file and a configuration whose backends are all made by
one reference. -/
def Session.staged : Session :=
  let project := "\x7b\"files\": [\x7b\"name\": \"File.kt\", \"text\": \"\"\x7d], " ++
    "\"confType\": \"java\"\x7d"
  let configuration := "version: \x7bversion: '2.1.0', stdlibVersion: '1'\x7d\n" ++
    "backends:\n  jvm: fakes:Backend\n  js: fakes:Backend\n  wasm: fakes:Backend\n" ++
    "  completion: fakes:Backend\n"
  { Session.fresh with
    files := (Session.fresh.files.put ["project.json"] (.file (Text.Utf8.encode project))).put
      ["kompile.yaml"] (.file (Text.Utf8.encode configuration)) }

namespace Invocation

/-- The invocation of a command for the staged project, with a backend that gives one answer. -/
def staged? (operation : String) (reply : Reply) (command : Command) (words : List String) :
    Option Invocation :=
  ofWords? ⟨.scripted [(operation, .ok reply)], none⟩ false command
    ("--project" :: "project.json" :: words) .staged

/-- Whether a request comes to an execution that passes a test. -/
def comesTo (invocation : Invocation) (test : Execution → Bool) : Bool :=
  match invocation.served.1 with
  | .ok (.outcome (.execution result)) => test result
  | _ => false

theorem exists_of_comesTo {invocation : Invocation} {test : Execution → Bool}
    (comes : invocation.comesTo test = true) :
    ∃ result, invocation.served.1 = .ok (.outcome (.execution result)) ∧ test result = true := by
  rw [comesTo] at comes
  split at comes
  next result answered => exact ⟨result, answered, comes⟩
  next => cases comes

/-- Whether a request ends with a fault that passes a test. -/
def failsWith (invocation : Invocation) (test : Fault → Bool) : Bool :=
  match invocation.served.1 with
  | .ok _ => false
  | .error fault => test fault

end Invocation

end Multitarget
