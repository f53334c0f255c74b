import Multitarget.Proofs.Command.Status
import Multitarget.Proofs.Command.Tests
import Multitarget.Proofs.Domain.Report

/-!
# What is told of failures

A run, a test, a translation or a compilation that fails tells why on a line of its own, behind the
sign of a failure: a diagnostic that is an error, the exception of the backend, a test that did not
pass, or where the report of a compilation is. Only a test whose backend failed does not tell of the
exception: it writes the diagnostics, of which none is an error then, and ends.
-/

namespace Multitarget

open Action Console Operation

/-! ## Entries of a text -/

namespace Console

variable {entry text before behind : List Char}

/-- A text is nothing, or ends where a line does. -/
def IsWhole (text : List Char) : Prop :=
  text = [] ∨ ∃ line, text = line ++ ['\n']

/-- A text holds an entry that does not start in the middle of a line. -/
def Holds (text entry : List Char) : Prop :=
  ∃ before behind, IsWhole before ∧ text = before ++ (entry ++ behind)

theorem IsWhole.append (whole : IsWhole before) (wholeToo : IsWhole text) :
    IsWhole (before ++ text) := by
  rcases wholeToo with rfl | ⟨line, rfl⟩
  · rwa [List.append_nil]
  · exact .inr ⟨before ++ line, (List.append_assoc ..).symm⟩

theorem isWhole_flatMap {α : Type} (items : List α) (shown : α → List Char) :
    IsWhole (items.flatMap fun item => shown item ++ ['\n']) := by
  induction items with
  | nil => exact .inl rfl
  | cons item rest ih =>
      rw [List.flatMap_cons]
      exact IsWhole.append (.inr ⟨shown item, rfl⟩) ih

theorem holds_self (entry behind : List Char) : Holds (entry ++ behind) entry :=
  ⟨[], behind, .inl rfl, rfl⟩

theorem Holds.append_right (holds : Holds text entry) (more : List Char) :
    Holds (text ++ more) entry := by
  obtain ⟨before, behind, whole, rfl⟩ := holds
  exact ⟨before, behind ++ more, whole, by simp only [List.append_assoc]⟩

theorem Holds.append_left (holds : Holds text entry) (whole : IsWhole before) :
    Holds (before ++ text) entry := by
  obtain ⟨first, behind, wholeToo, rfl⟩ := holds
  exact ⟨before ++ first, behind, whole.append wholeToo, by simp only [List.append_assoc]⟩

theorem holds_flatMap {α : Type} {items : List α} {item : α} (listed : item ∈ items)
    (shown : α → List Char) :
    Holds (items.flatMap fun item => shown item ++ ['\n']) (shown item ++ ['\n']) := by
  obtain ⟨first, rest, rfl⟩ := List.append_of_mem listed
  rw [List.flatMap_append, List.flatMap_cons]
  exact (holds_self _ _).append_left (isWhole_flatMap first shown)

end Console

/-! ## Reasons -/

namespace Operation

variable {result : Execution} {arguments : Arguments} {response : Response}
  {text line : List Char}

/-- The lines that tell why a response means a failure. -/
inductive Reason (arguments : Arguments) : Response → List Char → Prop where
  | diagnostic {outcome : Outcome} {file : String} {diagnostic : Diagnostic}
      (listed : (file, diagnostic) ∈ Report.located outcome.diagnostics)
      (isError : diagnostic.severity = .error) :
      Reason arguments (.outcome outcome) (shownLine file diagnostic ++ ['\n'])
  | exception {result : Execution} {exception : ExceptionDescription} {line : List Char}
      (attached : result.exception = some exception)
      (readable : marked .failure (headline exception) = .ok line) :
      Reason arguments (.outcome (.execution result)) line
  | test {result : Execution} {outcome : TestOutcome} (listed : outcome ∈ testOutcomes result)
      (failed : outcome.status ≠ .ok) :
      Reason arguments (.outcome (.execution result)) (testEntry outcome ++ ['\n'])
  | compilation {response : CompileResponse} {line : List Char} (failed : response.success = false)
      (readable : marked .failure (whereabouts (FilePath.ofText arguments.output) false) =
        .ok line) :
      Reason arguments (.compiled response) line

/-- A reason is told behind the sign of a failure. -/
theorem Reason.starts (reason : Reason arguments response line) :
    ∃ rest, line = Mark.failure.sign :: rest ++ ['\n'] := by
  cases reason with
  | @diagnostic outcome file diagnostic listed isError =>
      obtain ⟨rest, starts⟩ := layout_sign .failure false
        (' ' :: Markup.passed (Report.lineChars file diagnostic))
      exact ⟨rest, by rw [shownLine, isError, ← starts]; rfl⟩
  | exception attached readable => exact marked_starts readable
  | @test result outcome listed failed =>
      obtain ⟨rest, starts⟩ := testEntry_starts outcome
      rw [TestOutcome.mark, if_neg failed] at starts
      exact ⟨rest, by rw [starts]⟩
  | compilation failed readable => exact marked_starts readable

/-- A text tells a reason of a failure. -/
def Explains (arguments : Arguments) (response : Response) (text : List Char) : Prop :=
  ∃ line, Reason arguments response line ∧ Holds text line

theorem Explains.append_right (explains : Explains arguments response text) (more : List Char) :
    Explains arguments response (text ++ more) := by
  obtain ⟨line, reason, holds⟩ := explains
  exact ⟨line, reason, holds.append_right more⟩

/-- There are errors where one of the located diagnostics is an error. -/
theorem hasErrors_iff_located {diagnostics : Diagnostics} : diagnostics.hasErrors = true ↔
    ∃ entry ∈ Report.located diagnostics, entry.2.severity = .error := by
  rw [Diagnostics.hasErrors, ← Report.located_map_snd, List.any_map, List.any_eq_true]
  simp only [Function.comp_apply, Diagnostic.isError, beq_iff_eq]

/-- Where there are errors, the diagnostics explain the failure. -/
theorem explains_of_hasErrors (errors : result.diagnostics.hasErrors = true) :
    Explains arguments (.outcome (.execution result)) (diagnosticText result.diagnostics) := by
  obtain ⟨⟨file, diagnostic⟩, listed, isError⟩ := hasErrors_iff_located.mp errors
  have reason := @Reason.diagnostic arguments (.execution result) file diagnostic listed isError
  exact ⟨_, reason, holds_flatMap listed fun entry => shownLine entry.1 entry.2⟩

/-- A result that is no success is explained by its diagnostics and its exception. -/
theorem explains_of_statusOf (failed : statusOf result ≠ Refusal.success)
    (readable : exceptionText result = .ok text) :
    Explains arguments (.outcome (.execution result))
      (diagnosticText result.diagnostics ++ text) := by
  by_cases errors : result.diagnostics.hasErrors = true
  · exact (explains_of_hasErrors errors).append_right text
  · cases attached : result.exception with
    | none =>
        refine absurd ?_ failed
        simp [statusOf, Execution.status, errors, attached]
    | some exception =>
        rw [exceptionText, attached] at readable
        have holds := holds_self text []
        rw [List.append_nil] at holds
        exact ⟨text, .exception attached readable, holds.append_left (isWhole_flatMap _ _)⟩

theorem hasErrors_of_status (uncompiled : result.status = .notCompiled) :
    result.diagnostics.hasErrors = true := by
  rw [Execution.status] at uncompiled
  split at uncompiled
  next errors => exact errors
  next => split at uncompiled <;> cases uncompiled

/-- A test that is no success is explained by its entries, or by its diagnostics, unless the backend
failed. -/
theorem explains_of_testStatus (failed : testStatus result ≠ Refusal.success)
    (noFailure : result.status ≠ .internalError) :
    Explains arguments (.outcome (.execution result))
      (if result.status = .compiled then testText result
        else diagnosticText result.diagnostics) := by
  cases known : result.status with
  | internalError => exact absurd known noFailure
  | notCompiled => exact explains_of_hasErrors (hasErrors_of_status known)
  | compiled =>
      by_cases failing : ∃ outcome ∈ testOutcomes result, outcome.status ≠ .ok
      · obtain ⟨outcome, listed, failing⟩ := failing
        exact ⟨_, .test listed failing, holds_flatMap listed testEntry⟩
      · exact absurd (by simp [testStatus, known, failing]) failed

/-! ## Conclusions -/

/-- The way an action ends is explained by what it writes: a status other than that of success comes
with a reason. A fault in its place is none that something raised. -/
def IsExplained (arguments : Arguments) (response : Response) (text : List Char) :
    Except Fault Nat → Prop
  | .ok status => status ≠ Refusal.success → Explains arguments response text
  | .error fault => ∀ exception, fault ≠ .raised exception

/-- An action writes a text that explains how it ends. -/
def Accounts (arguments : Arguments) (response : Response) (action : Action Nat) : Prop :=
  ∃ ending text, action.Prints ending text ∧ IsExplained arguments response text ending

theorem presentRun_accounts (outcome : Outcome) :
    Accounts arguments (.outcome outcome) (presentRun false outcome) := by
  cases outcome with
  | compilation result =>
      have ends : (presentRun false (.compilation result)).Prints
          (.error (.unsuitable (Outcome.compilation result).typeName "exception"))
          (diagnosticText (Outcome.compilation result).diagnostics ++ []) := by
        simp only [presentRun, printRun, Bool.false_eq_true, if_false]
        exact ((printDiagnostics_prints _).bind_ok (prints_throw _).bind_error).bind_error
      refine ⟨_, _, ends, fun exception same => ?_⟩
      cases same
  | execution result =>
      cases readable : exceptionText result with
      | error fault =>
          refine ⟨_, _, presentRun_unreadable readable, fun exception same => ?_⟩
          exact exceptionText_unraised result exception (same ▸ readable)
      | ok text =>
          refine ⟨_, _, presentRun_prints readable, fun failed => ?_⟩
          rw [← List.append_assoc]
          exact (explains_of_statusOf failed readable).append_right _

theorem presentTranslation_accounts (result : Execution) :
    Accounts arguments (.outcome (.execution result)) (presentTranslation false result) := by
  cases readable : exceptionText result with
  | error fault =>
      refine ⟨_, _, presentTranslation_unreadable readable, fun exception same => ?_⟩
      exact exceptionText_unraised result exception (same ▸ readable)
  | ok text =>
      obtain ⟨more, prints⟩ := exists_presentTranslation readable
      refine ⟨_, _, prints, fun failed => ?_⟩
      rw [← List.append_assoc]
      exact (explains_of_statusOf failed readable).append_right _

theorem presentTest_accounts {outcome : Outcome} (noFailure : outcome.status ≠ .internalError) :
    Accounts arguments (.outcome outcome) (presentTest false outcome) := by
  cases outcome with
  | compilation result => exact ⟨_, _, (prints_throw _).bind_error, nofun⟩
  | execution result =>
      refine ⟨_, _, presentTest_prints result, fun failed => ?_⟩
      exact explains_of_testStatus failed noFailure

theorem presentCompilation_accounts (response : CompileResponse) :
    Accounts arguments (.compiled response)
      (presentCompilation (FilePath.ofText arguments.output) response) := by
  have tells := presentCompilation_tells (FilePath.ofText arguments.output) response
  cases readable : marked (if response.success then .success else .failure)
      (whereabouts (FilePath.ofText arguments.output) response.success) with
  | error fault =>
      refine ⟨_, [], tells.stopped readable, fun exception same => ?_⟩
      exact marked_unraised _ _ exception (same ▸ readable)
  | ok line =>
      refine ⟨_, line, tells.written readable, fun failed => ?_⟩
      cases succeeded : response.success with
      | true => exact absurd (if_pos succeeded) failed
      | false =>
          rw [succeeded] at readable
          have holds := holds_self line []
          rw [List.append_nil] at holds
          exact ⟨line, .compilation succeeded readable, holds⟩

end Operation

/-- A command accounts for what it presents as text, but for a test whose backend failed. -/
theorem Command.present_accounts {command : Command} {arguments : Arguments} {response : Response}
    (fits : command.Fits response) (judges : command ∈ [.run, .test, .translate, .compile])
    (asText : arguments.asJson = false)
    (told : ∀ outcome, command = .test → response = .outcome outcome →
      outcome.status ≠ .internalError) :
    Accounts arguments response (command.present arguments response) := by
  cases fits with
  | run outcome =>
      rw [present, asText]
      exact presentRun_accounts outcome
  | test outcome =>
      rw [present, asText]
      exact presentTest_accounts (told outcome rfl rfl)
  | translate result =>
      rw [present, asText]
      exact presentTranslation_accounts result
  | compile response => exact presentCompilation_accounts response
  | complete reply => simp at judges
  | highlight diagnostics => simp at judges

namespace Invocation

variable {invocation : Invocation} {response : Response} {result : Execution}

/-- What a command line accounts for is told where it fails. -/
theorem explains_of_accounts (answered : invocation.served.1 = .ok response)
    (accounts : Accounts invocation.arguments response
      (invocation.command.present invocation.arguments response))
    (ended : invocation.report.uncaught = none)
    (failed : invocation.report.status ≠ Refusal.success) :
    Explains invocation.arguments response invocation.report.output.toList := by
  obtain ⟨ending, text, prints, explained⟩ := accounts
  have reported := report_of_prints answered prints
  cases ending with
  | error fault =>
      rw [CommandLine.concluded_error explained] at reported
      rw [reported] at ended
      cases ended
  | ok status =>
      rw [reported] at failed
      rw [reported, CommandLine.concluded, String.toList_ofList]
      exact explained failed

/-- A test whose backend failed writes its diagnostics, and nothing of the exception. -/
theorem report_of_failed_test (isTest : invocation.command = .test)
    (asText : invocation.arguments.asJson = false)
    (answered : invocation.served.1 = .ok (.outcome (.execution result)))
    (failed : result.status = .internalError) :
    invocation.report =
      ⟨Refusal.systemError, String.ofList (diagnosticText result.diagnostics), "", none⟩ := by
  have prints := presentTest_prints result
  have status : testStatus result = Refusal.systemError := if_pos failed
  have presented : invocation.command.present invocation.arguments
      (.outcome (.execution result)) = presentTest false (.execution result) := by
    rw [isTest, Command.present, asText]
  rw [status, failed, ← presented] at prints
  exact report_of_prints answered prints

/-- A run, a test, a translation or a compilation that ends by itself with another status than that
of success tells why: a refusal by its message, and anything else by a line of its own behind the
sign of a failure. Only a test whose backend failed writes its diagnostics and nothing else: none of
them is an error then, and there may be none at all. -/
theorem failure_told (judges : invocation.command ∈ [.run, .test, .translate, .compile])
    (asText : invocation.arguments.asJson = false) :
    (∀ fault refusal, invocation.served.1 = .error fault →
      invocation.command.explain invocation.arguments fault = some refusal →
        if invocation.onConsole then
          invocation.report.output = String.ofList (CommandLine.refusalText refusal) ∧
            ∃ rest, CommandLine.refusalText refusal = Mark.failure.sign :: rest ++ ['\n']
        else invocation.report.errors = "Error: " ++ refusal.message ++ "\n") ∧
    ∀ response, invocation.served.1 = .ok response →
      ((∀ outcome, invocation.command = .test → response = .outcome outcome →
          outcome.status ≠ .internalError) →
        invocation.report.uncaught = none → invocation.report.status ≠ Refusal.success →
          ∃ line rest, Reason invocation.arguments response line ∧
            line = Mark.failure.sign :: rest ++ ['\n'] ∧
            Holds invocation.report.output.toList line) ∧
      ∀ result, invocation.command = .test → response = .outcome (.execution result) →
        result.status = .internalError →
          invocation.report = ⟨Refusal.systemError,
            String.ofList (diagnosticText result.diagnostics), "", none⟩ ∧
          ∀ entry ∈ Report.located result.diagnostics, entry.2.severity ≠ .error := by
  constructor
  · intro fault refusal failed explained
    rw [report_of_refusal failed explained, CommandLine.declined]
    cases invocation.onConsole with
    | false => rfl
    | true =>
        obtain ⟨rest, starts⟩ := layout_sign .failure true
          (' ' :: Markup.passed refusal.message.toList)
        exact ⟨rfl, rest, by rw [CommandLine.refusalText, starts]⟩
  · intro response answered
    constructor
    · intro told ended failed
      have accounts := Command.present_accounts (invocation.fits answered) judges asText told
      obtain ⟨line, reason, holds⟩ := explains_of_accounts answered accounts ended failed
      obtain ⟨rest, starts⟩ := reason.starts
      exact ⟨line, rest, reason, starts, holds⟩
    · rintro result isTest rfl failed
      refine ⟨report_of_failed_test isTest asText answered failed, ?_⟩
      intro entry listed isError
      have errors := hasErrors_iff_located.mpr ⟨entry, listed, isError⟩
      rw [Execution.status, if_pos errors] at failed
      cases failed

end Invocation

/-- What a program came to whose backend failed, without a diagnostic. -/
def Execution.unloaded : Execution :=
  { Execution.empty .none with
    exception := some (.mk (some "class loader failed") "IllegalStateException" [] none) }

/-- A run tells of the exception of its backend. A test with the same exception fails as well, and
writes nothing at all. -/
theorem Invocation.failure_told_unloaded :
    (∃ (invocation : Invocation) (result : Execution) (line : List Char),
      invocation.command = .run ∧ invocation.arguments.asJson = false ∧
      invocation.served.1 = .ok (.outcome (.execution result)) ∧
      result.exception.map headline = Execution.unloaded.exception.map headline ∧
      invocation.report.status = Refusal.systemError ∧
      Reason invocation.arguments (.outcome (.execution result)) line ∧
      Holds invocation.report.output.toList line) ∧
    ∃ (invocation : Invocation) (result : Execution),
      invocation.command = .test ∧ invocation.arguments.asJson = false ∧
      invocation.served.1 = .ok (.outcome (.execution result)) ∧
      result.exception.map headline = Execution.unloaded.exception.map headline ∧
      invocation.report = ⟨Refusal.systemError, "", "", none⟩ := by
  constructor
  · have staged : (staged? "jvm.run" (.outcome (.execution .unloaded)) .run []).any
        (fun invocation => decide (invocation.command = .run) && !invocation.arguments.asJson &&
          invocation.comesTo fun result =>
            decide (result.exception.map headline = Execution.unloaded.exception.map headline) &&
            decide (statusOf result = Refusal.systemError) && (exceptionText result).toBool) =
          true := by
      decide +kernel
    obtain ⟨invocation, _, checked⟩ := (Option.any_eq_true _ _).mp staged
    simp only [Bool.and_eq_true, decide_eq_true_eq, Bool.not_eq_true'] at checked
    obtain ⟨⟨isRun, asText⟩, comes⟩ := checked
    obtain ⟨result, answered, checked⟩ := exists_of_comesTo comes
    simp only [Bool.and_eq_true, decide_eq_true_eq] at checked
    obtain ⟨⟨same, status⟩, readable⟩ := checked
    cases told : exceptionText result with
    | error fault =>
        rw [told] at readable
        cases readable
    | ok text =>
        have prints := presentRun_prints told
        have presented : invocation.command.present invocation.arguments
            (.outcome (.execution result)) = presentRun false (.execution result) := by
          rw [isRun, Command.present, asText]
        rw [status, ← presented] at prints
        have reported := report_of_prints answered prints
        have failed : invocation.report.status = Refusal.systemError := by rw [reported]; rfl
        have ended : invocation.report.uncaught = none := by rw [reported]; rfl
        have noTest : ∀ outcome, invocation.command = .test →
            Response.outcome (.execution result) = .outcome outcome →
              outcome.status ≠ .internalError := by
          intro outcome isTest
          rw [isRun] at isTest
          cases isTest
        obtain ⟨line, _, reason, _, holds⟩ := ((failure_told (by simp [isRun]) asText).2 _
          answered).1 noTest ended (by rw [failed]; decide)
        exact ⟨invocation, result, line, isRun, asText, answered, same, failed, reason, holds⟩
  · have staged : (staged? "jvm.test" (.outcome (.execution .unloaded)) .test []).any
        (fun invocation => decide (invocation.command = .test) && !invocation.arguments.asJson &&
          invocation.comesTo fun result =>
            decide (result.exception.map headline = Execution.unloaded.exception.map headline) &&
            decide (result.status = .internalError) && decide (result.diagnostics = .empty)) =
          true := by
      decide +kernel
    obtain ⟨invocation, _, checked⟩ := (Option.any_eq_true _ _).mp staged
    simp only [Bool.and_eq_true, decide_eq_true_eq, Bool.not_eq_true'] at checked
    obtain ⟨⟨isTest, asText⟩, comes⟩ := checked
    obtain ⟨result, answered, checked⟩ := exists_of_comesTo comes
    simp only [Bool.and_eq_true, decide_eq_true_eq] at checked
    obtain ⟨⟨same, failed⟩, quiet⟩ := checked
    obtain ⟨reported, _⟩ := ((failure_told (by simp [isTest]) asText).2 _ answered).2 result
      isTest rfl failed
    have silent : diagnosticText .empty = [] := rfl
    rw [quiet, silent] at reported
    exact ⟨invocation, result, isTest, asText, answered, same, reported⟩

end Multitarget
