import Multitarget.Proofs.Command.Status
import Multitarget.Proofs.Executor.Containment

/-!
# Faults of the backend on the command line

What the backend raises while a project is run, tested or compiled comes through to the command,
and what the command makes of it depends on what was raised. Only a compilation reports some of it
with the status of a backend at fault, those faults that it takes for a failure to write. A failure
of the library is reported as an error of the user, and all else is not reported at all.
-/

namespace Multitarget

namespace Command

/-- The commands that have the backend of the JVM at work. -/
def onJvm : List Command := [.run, .test, .compile]

variable {command : Command} {arguments : Arguments} {project : Project} {request : Request}

/-- What such a command asks for is one operation of the family. -/
theorem exists_primary_of_onJvm (listed : command ∈ onJvm)
    (asked : command.request? arguments project = some request) :
    ∃ operation ∈ request.primary?, operation.family = .jvm := by
  cases command with
  | run =>
      obtain rfl := Option.some.inj asked
      exact ⟨.run arguments.byteCode, rfl, rfl⟩
  | test =>
      obtain rfl := Option.some.inj asked
      exact ⟨.test false, rfl, rfl⟩
  | compile =>
      obtain rfl := Option.some.inj asked
      exact ⟨.compileClasses, rfl, rfl⟩
  | translate | complete | highlight | version => simp [onJvm] at listed

theorem explain_of_onJvm (listed : command ∈ onJvm) (notCompile : command ≠ .compile) :
    command.explain arguments = Refusal.ofFailure := by
  cases command with
  | run | test => rfl
  | compile => exact absurd rfl notCompile
  | translate | complete | highlight | version => simp [onJvm] at listed

/-- How a command is reported whose backend of the JVM raises an exception. -/
inductive Reports (onConsole : Bool) (output : String) (command : Command)
    (exception : Exception) : CommandReport → Prop where
  /-- A failure of the library is an error of the user. -/
  | failure {failure : Failure} (known : exception.nature = .failure failure)
      (written : command = .compile → ∀ path reason, failure ≠ .persistence path reason) :
      Reports onConsole output command exception
        (CommandLine.declined onConsole ⟨failure.message, Refusal.userError⟩)
  /-- A compilation takes an artifact that cannot be written for a failure of the system. -/
  | unwritten {path reason : String}
      (known : exception.nature = .failure (.persistence path reason))
      (isCompile : command = .compile) :
      Reports onConsole output command exception (CommandLine.declined onConsole
        ⟨(Failure.persistence path reason).message, Refusal.systemError⟩)
  /-- A compilation takes a failure of the operating system for one to write. -/
  | system {failure : SystemFailure} (known : exception.nature = .system failure)
      (isCompile : command = .compile) :
      Reports onConsole output command exception (CommandLine.declined onConsole
        ⟨if failure.denied then "Cannot write to: " ++ output
          else "Cannot write to " ++ output ++ ": " ++ (Fault.raised exception).message,
          Refusal.systemError⟩)
  /-- A closed pipe ends any other command without a word. -/
  | closedPipe {failure : SystemFailure} (known : exception.nature = .system failure)
      (notCompile : command ≠ .compile) (closed : failure.number = some CommandLine.closedPipe) :
      Reports onConsole output command exception ⟨Refusal.userError, "", "", none⟩
  /-- Any other failure of the operating system is passed on by any other command. -/
  | systemPassed {failure : SystemFailure} (known : exception.nature = .system failure)
      (notCompile : command ≠ .compile) (other : failure.number ≠ some CommandLine.closedPipe) :
      Reports onConsole output command exception
        ⟨Refusal.userError, "", "", some (.raised exception)⟩
  /-- Whatever else is raised is passed on. -/
  | passed {text : String} (known : exception.nature = .ordinary text) :
      Reports onConsole output command exception
        ⟨Refusal.userError, "", "", some (.raised exception)⟩

/-- Only a compilation is reported with the status of a backend at fault, and only for what it
takes for a failure to write. -/
theorem Reports.status_eq_iff {onConsole : Bool} {output : String} {exception : Exception}
    {report : CommandReport} (reports : command.Reports onConsole output exception report) :
    report.status = Refusal.systemError ↔ command = .compile ∧
      ((∃ failure, exception.nature = .system failure) ∨
        ∃ path reason, exception.nature = .failure (.persistence path reason)) := by
  have apart : Refusal.userError ≠ Refusal.systemError := by decide
  cases reports with
  | failure known written =>
      rw [(CommandLine.declined_status _ _).1]
      simp only [apart, false_iff]
      rintro ⟨isCompile, ⟨failure, other⟩ | ⟨path, reason, other⟩⟩
      · rw [known] at other
        cases other
      · rw [known] at other
        exact written isCompile path reason (Exception.Nature.failure.inj other)
  | unwritten known isCompile =>
      rw [(CommandLine.declined_status _ _).1]
      exact ⟨fun _ => ⟨isCompile, .inr ⟨_, _, known⟩⟩, fun _ => rfl⟩
  | system known isCompile =>
      rw [(CommandLine.declined_status _ _).1]
      exact ⟨fun _ => ⟨isCompile, .inl ⟨_, known⟩⟩, fun _ => rfl⟩
  | closedPipe known notCompile | systemPassed known notCompile =>
      exact ⟨fun same => absurd same apart, fun told => absurd told.1 notCompile⟩
  | passed known => simp [known, apart]

end Command

namespace Invocation

variable {invocation : Invocation} {fault : Fault} {exception : Exception}

/-- A fault of the request that the command does not explain is all that is reported. -/
theorem report_of_fault (failed : invocation.served.1 = .error fault)
    (unexplained : invocation.command.explain invocation.arguments fault = none) :
    invocation.report = CommandLine.faulted "" fault := by
  have ran := invocation.performed
  have silent : CommandLine.written invocation.served.2 = "" := by
    rw [CommandLine.written, invocation.printed_served]
    rfl
  rw [failed] at ran
  simp only [Command.conclude, unexplained, Action.resume, Attempt.lift_run, throw_run] at ran
  simp only [report, CommandLine.runCommand, invocation.understood, invocation.isNoHelp, ran,
    Bool.false_eq_true, if_false]
  exact congrArg (CommandLine.faulted · fault) silent

/-- What the backend raises comes through to a command that has the backend of the JVM at work. -/
theorem served_of_raises (listed : invocation.command ∈ Command.onJvm)
    (raises : invocation.request.Raises invocation.executor invocation.project invocation.ready
      exception) :
    invocation.served.1 = .error (.raised exception) :=
  (Request.perform_uncontained raises
    (.inl (Command.exists_primary_of_onJvm listed invocation.asked))).1

/-- A compilation reports a failure of the library, and what keeps it from writing. -/
theorem reports_of_compile (isCompile : invocation.command = .compile)
    (isFault : exception.isFault = true)
    (failed : invocation.served.1 = .error (.raised exception)) :
    invocation.command.Reports invocation.onConsole invocation.arguments.output exception
      invocation.report := by
  have explains (ending : Option Refusal)
      (same : Refusal.ofOutput invocation.arguments.output (.raised exception) = ending) :
      invocation.command.explain invocation.arguments (.raised exception) = ending := by
    rw [isCompile]
    exact same
  obtain ⟨name, nature, cause, context, suppressed⟩ := exception
  cases nature with
  | failure failure =>
      cases failure with
      | persistence path reason =>
          rw [report_of_refusal failed (explains _ rfl)]
          exact .unwritten rfl isCompile
      | _ =>
          rw [report_of_refusal failed (explains _ rfl)]
          exact .failure rfl fun _ _ _ => nofun
  | system failure =>
      have refused : Refusal.ofOutput invocation.arguments.output
          (.raised (.mk name (.system failure) cause context suppressed)) =
            some ⟨if failure.denied then "Cannot write to: " ++ invocation.arguments.output
              else "Cannot write to " ++ invocation.arguments.output ++ ": " ++
                (Fault.raised (.mk name (.system failure) cause context suppressed)).message,
              Refusal.systemError⟩ := by
        cases denied : failure.denied <;>
          simp [Refusal.ofOutput, Fault.isDenied, Fault.failure?, Fault.isSystem, Exception.nature,
            denied]
      rw [report_of_refusal failed (explains _ refused)]
      exact .system rfl isCompile
  | ordinary text =>
      rw [report_of_fault failed (explains _ rfl)]
      exact .passed rfl
  | interrupt | exit => cases isFault

/-- A run and a test report a failure of the library alone. -/
theorem reports_of_other (listed : invocation.command ∈ Command.onJvm)
    (notCompile : invocation.command ≠ .compile) (isFault : exception.isFault = true)
    (failed : invocation.served.1 = .error (.raised exception)) :
    invocation.command.Reports invocation.onConsole invocation.arguments.output exception
      invocation.report := by
  have explains (ending : Option Refusal)
      (same : Refusal.ofFailure (.raised exception) = ending) :
      invocation.command.explain invocation.arguments (.raised exception) = ending := by
    rw [Command.explain_of_onJvm listed notCompile]
    exact same
  obtain ⟨name, nature, cause, context, suppressed⟩ := exception
  cases nature with
  | failure failure =>
      rw [report_of_refusal failed (explains _ rfl)]
      exact .failure rfl fun isCompile => absurd isCompile notCompile
  | system failure =>
      rw [report_of_fault failed (explains _ rfl)]
      by_cases closed : failure.number = some CommandLine.closedPipe
      · have report : CommandLine.faulted "" (.raised (.mk name (.system failure) cause context
            suppressed)) = ⟨Refusal.userError, "", "", none⟩ := if_pos closed
        rw [report]
        exact .closedPipe rfl notCompile closed
      · have report : CommandLine.faulted "" (.raised (.mk name (.system failure) cause context
            suppressed)) = ⟨Refusal.userError, "", "", some (.raised (.mk name (.system failure)
              cause context suppressed))⟩ := if_neg closed
        rw [report]
        exact .systemPassed rfl notCompile closed
  | ordinary text =>
      rw [report_of_fault failed (explains _ rfl)]
      exact .passed rfl
  | interrupt | exit => cases isFault

/-- What a run, a test or a compilation reports of a fault of its backend is decided by the command
and by what was raised. It has the status of a backend at fault exactly for a compilation and what
that takes for a failure to write; everything else has the status of an error of the user, with the
message of a failure of the library or with nothing to explain it. -/
theorem backend_fault_told (invocation : Invocation) (listed : invocation.command ∈ Command.onJvm)
    (raises : invocation.request.Raises invocation.executor invocation.project invocation.ready
      exception)
    (isFault : exception.isFault = true) :
    invocation.command.Reports invocation.onConsole invocation.arguments.output exception
      invocation.report ∧
    (invocation.report.status = Refusal.systemError ↔ invocation.command = .compile ∧
      ((∃ failure, exception.nature = .system failure) ∨
        ∃ path reason, exception.nature = .failure (.persistence path reason))) := by
  have failed := served_of_raises listed raises
  have reports : invocation.command.Reports invocation.onConsole invocation.arguments.output
      exception invocation.report := by
    by_cases isCompile : invocation.command = .compile
    · exact reports_of_compile isCompile isFault failed
    · exact reports_of_other listed isCompile isFault failed
  exact ⟨reports, reports.status_eq_iff⟩

end Invocation

/-! ## Staged faults -/

/-- What an operation that is there is called by. -/
def Operation.ready? {α : Type} : Operation α → Option α
  | .ready call => some call
  | _ => none

theorem Operation.of_ready? {α : Type} {operation : Operation α} {call : α}
    (found : operation.ready? = some call) : operation = .ready call := by
  cases operation with
  | ready other => exact congrArg Operation.ready (Option.some.inj found)
  | absent | unfit => cases found

/-- How backends answer a call, where they have the operation for it. -/
def Backends.answer? (backends : Backends) : Call → Option (Answer Reply)
  | .run files addByteCode arguments =>
      (backends.run.map fun call => call files addByteCode arguments).ready?
  | .test files addByteCode => (backends.test.map fun call => call files addByteCode).ready?
  | .compile files addClasspath =>
      (backends.compile.map fun call => call files addClasspath).ready?
  | .translateJs files arguments =>
      (backends.translateJs.map fun call => call files arguments).ready?
  | .translateWasm files arguments variant debugInfo =>
      (backends.translateWasm.map fun call => call files arguments variant debugInfo).ready?
  | .complete file line column target context =>
      (backends.complete.map fun call => call file line column target context).ready?

theorem Backends.answers_of_answer? {backends : Backends} {call : Call} {answer : Answer Reply}
    (found : backends.answer? call = some answer) : backends.Answers answer call := by
  cases call <;> exact Operation.of_ready? found

namespace Invocation

/-- Whether a request makes a call at which its backend raises an exception that passes a test. -/
def raisesWith (invocation : Invocation) (test : Exception → Bool) : Bool :=
  (invocation.executor.callsOf invocation.ready (invocation.request.call? invocation.project
    invocation.ready.nextContext)).any fun call =>
      match invocation.executor.backends.answer? call with
      | some (.error exception) => test exception
      | _ => false

theorem exists_of_raisesWith {invocation : Invocation} {test : Exception → Bool}
    (raised : invocation.raisesWith test = true) :
    ∃ exception, invocation.request.Raises invocation.executor invocation.project invocation.ready
      exception ∧ test exception = true := by
  obtain ⟨call, called, passed⟩ := List.any_eq_true.mp raised
  split at passed
  next exception answered =>
    exact ⟨exception, ⟨call, called, Backends.answers_of_answer? answered⟩, passed⟩
  next => cases passed

/-- The invocation of a command for the staged project, with a backend that raises something. -/
def raising? (operation : String) (nature : Exception.Nature) (command : Command) :
    Option Invocation :=
  ofWords? ⟨.scripted [(operation, .error (.mk "Fault" nature none none false))], none⟩ false
    command ["--project", "project.json"] .staged

/-- A staged command line at whose call the backend was seen to raise something of a nature. -/
theorem exists_of_raising {operation : String} {nature : Exception.Nature} {command : Command}
    (staged : (raising? operation nature command).any (fun invocation =>
      decide (invocation.command = command) &&
        invocation.raisesWith fun exception => decide (exception.nature = nature)) = true) :
    ∃ (invocation : Invocation) (exception : Exception), invocation.command = command ∧
      invocation.request.Raises invocation.executor invocation.project invocation.ready exception ∧
      exception.nature = nature := by
  obtain ⟨invocation, _, checked⟩ := (Option.any_eq_true _ _).mp staged
  simp only [Bool.and_eq_true, decide_eq_true_eq] at checked
  obtain ⟨same, raised⟩ := checked
  obtain ⟨exception, raises, passed⟩ := exists_of_raisesWith raised
  exact ⟨invocation, exception, same, raises, of_decide_eq_true passed⟩

/-- Where the backend raises what is no failure of the library, a run has a fault that nothing deals
with and the status of an error of the user, and a compilation the status of a backend at fault if
the operating system failed. -/
theorem backend_fault_told_raising :
    (∃ (invocation : Invocation) (exception : Exception),
      invocation.command = .run ∧
      invocation.request.Raises invocation.executor invocation.project invocation.ready exception ∧
      exception.nature = .ordinary "no code" ∧
      invocation.report = ⟨Refusal.userError, "", "", some (.raised exception)⟩) ∧
    ∃ (invocation : Invocation) (exception : Exception),
      invocation.command = .compile ∧
      invocation.request.Raises invocation.executor invocation.project invocation.ready exception ∧
      exception.nature = .system ⟨some 28, "No space left on device", none, false⟩ ∧
      invocation.report.status = Refusal.systemError := by
  constructor
  · obtain ⟨invocation, exception, isRun, raises, nature⟩ :=
      @exists_of_raising "jvm.run" (.ordinary "no code") .run (by decide +kernel)
    have told := backend_fault_told invocation (by rw [isRun]; decide) raises
      (by rw [Exception.isFault, nature])
    refine ⟨invocation, exception, isRun, raises, nature, ?_⟩
    generalize invocation.report = report at told
    cases told.1 with
    | passed | systemPassed => rfl
    | failure known | unwritten known | system known | closedPipe known =>
        rw [nature] at known
        cases known
  · obtain ⟨invocation, exception, isCompile, raises, nature⟩ :=
      @exists_of_raising "jvm.compile" (.system ⟨some 28, "No space left on device", none, false⟩)
        .compile (by decide +kernel)
    have told := backend_fault_told invocation (by rw [isCompile]; decide) raises
      (by rw [Exception.isFault, nature])
    exact ⟨invocation, exception, isCompile, raises, nature,
      told.2.mpr ⟨isCompile, .inl ⟨_, nature⟩⟩⟩

end Invocation

end Multitarget
