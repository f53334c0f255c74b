import Multitarget.Proofs.Command.Invocation

/-!
# What is shown of results

Diagnostics, the output of programs and translated scripts go through the layout of the console.
It leaves a text as it is exactly if the text holds no tab and no control character that is
dropped, and all its lines fit. The line of a diagnostic is escaped and read as markup before
that, which loses a backslash right before a bracket that opens no tag, and doubles one at the end.
-/

namespace Multitarget

open Action Console

/-! ## Diagnostics -/

/-- What stands before the line of a diagnostic. -/
def Severity.lead : Severity → List Char
  | .error => [Mark.failure.sign, ' ']
  | .warning => [Mark.warning.sign, ' ']
  | .info => []

namespace Operation

/-- The line of a diagnostic as the console shows it. -/
def shownLine (file : String) (diagnostic : Diagnostic) : List Char :=
  layout false (diagnostic.severity.lead ++ Markup.passed (Report.lineChars file diagnostic))

theorem printDiagnostic_prints (file : String) (diagnostic : Diagnostic) :
    (printDiagnostic file diagnostic).Prints (.ok ()) (shownLine file diagnostic ++ ['\n']) := by
  cases known : diagnostic.severity with
  | error =>
      simp only [printDiagnostic, shownLine, known]
      exact printMarked_escape .failure _
  | warning =>
      simp only [printDiagnostic, shownLine, known]
      exact printMarked_escape .warning _
  | info =>
      simp only [printDiagnostic, shownLine, known]
      exact printLine_of_ok (Markup.plain_escape false _)

/-- What diagnostics are written as: each as a line, file after file. -/
def diagnosticText (diagnostics : Diagnostics) : List Char :=
  (Report.located diagnostics).flatMap fun (file, diagnostic) =>
    shownLine file diagnostic ++ ['\n']

theorem printDiagnostics_prints (diagnostics : Diagnostics) :
    (printDiagnostics diagnostics).Prints (.ok ()) (diagnosticText diagnostics) :=
  prints_forM _ fun (file, diagnostic) => printDiagnostic_prints file diagnostic

end Operation

/-! ## Lines that are shown as they are -/

namespace Console

variable {line lead first second : List Char}

/-- Whether a text stays on its line: it holds no line feed and no tab, and nothing of it is
dropped. -/
def IsSingleLine (text : List Char) : Prop :=
  ∀ character ∈ text, isSuppressed character = false ∧ character ≠ '\t' ∧ character ≠ '\n'

instance (text : List Char) : Decidable (IsSingleLine text) :=
  List.decidableBAll (fun character =>
    isSuppressed character = false ∧ character ≠ '\t' ∧ character ≠ '\n') text

theorem IsSingleLine.append (single : IsSingleLine first) (singleToo : IsSingleLine second) :
    IsSingleLine (first ++ second) := by
  intro character listed
  rcases List.mem_append.mp listed with before | behind
  · exact single character before
  · exact singleToo character behind

end Console

namespace Operation

end Operation

/-- A diagnostic whose line is too long. -/
def Diagnostic.overlong : Diagnostic :=
  ⟨none, String.ofList (List.replicate 100 'a'), .error, none⟩

namespace Operation

/-! ## Programs -/

/-- What is written of the exception of a result, if its line can be read as markup. -/
def exceptionText (result : Execution) : Except Fault (List Char) :=
  match result.exception with
  | none => .ok []
  | some exception => marked .failure (headline exception)

/-- What is written of a program: its output and its byte code. -/
def programText (result : Execution) : List Char :=
  layout false result.text.toList ++ layout false (result.byteCode.getD "").toList

section Results

variable {result : Execution} {text : List Char} {fault : Fault}

theorem printException_tells (result : Execution) :
    Tells (result.exception.forM printException) (exceptionText result) (.ok ()) := by
  rw [exceptionText]
  cases result.exception with
  | none => exact .of_ok (prints_pure ())
  | some exception =>
      have alone : (some exception).forM printException = printException exception := by
        rw [Option.forM.eq_def]
      rw [alone]
      exact printMarked_tells .failure (headline exception)

/-- Byte code that there is none of is not written, which comes to the same. -/
theorem printByteCode_prints (byteCode : String) :
    (if byteCode ≠ "" then Console.printProgram byteCode.toList else pure ()).Prints (.ok ())
      (layout false byteCode.toList) := by
  by_cases none : byteCode = ""
  · subst none
    exact prints_pure ()
  · rw [if_pos none]
    exact printProgram_prints _

theorem printRun_prints (readable : exceptionText result = .ok text) :
    (printRun (.execution result)).Prints (.ok ())
      (diagnosticText result.diagnostics ++ (text ++ programText result)) := by
  simp only [printRun, executionOf, pure_bind]
  apply (printDiagnostics_prints result.diagnostics).bind_ok
  apply ((printException_tells result).written readable).bind_ok
  apply (printProgram_prints result.text.toList).bind_ok
  exact printByteCode_prints _

/-- What is written of a run whose exception can be read, and the status that it ends with. -/
theorem presentRun_prints (readable : exceptionText result = .ok text) :
    (presentRun false (.execution result)).Prints (.ok (statusOf result))
      (diagnosticText result.diagnostics ++ (text ++ programText result)) := by
  simp only [presentRun, executionOf, pure_bind, Bool.false_eq_true, if_false]
  exact (printRun_prints readable).then_quiet (prints_pure _)

theorem printRun_unreadable (unreadable : exceptionText result = .error fault) :
    (printRun (.execution result)).Prints (.error fault)
      (diagnosticText result.diagnostics ++ []) := by
  simp only [printRun, executionOf, pure_bind]
  apply (printDiagnostics_prints result.diagnostics).bind_ok
  exact ((printException_tells result).stopped unreadable).bind_error

/-- A run whose exception cannot be read ends there. -/
theorem presentRun_unreadable (unreadable : exceptionText result = .error fault) :
    (presentRun false (.execution result)).Prints (.error fault)
      (diagnosticText result.diagnostics) := by
  have stopped := printRun_unreadable unreadable
  rw [List.append_nil] at stopped
  simp only [presentRun, Bool.false_eq_true, if_false]
  exact stopped.bind_error

theorem printTranslated_script (code : Option String) :
    (printTranslated (.script code)).Prints (.ok ())
      (layout false ((code.getD "").toList ++ ['\n'])) :=
  printProgram_prints _

/-- A translated program can always be written. -/
theorem exists_printTranslated (payload : Payload) :
    ∃ text, (printTranslated payload).Prints (.ok ()) text := by
  cases payload with
  | none => exact ⟨_, printProgram_prints _⟩
  | tests results => exact ⟨_, printProgram_prints _⟩
  | script code => exact ⟨_, printTranslated_script code⟩
  | module script instantiation binary textForm =>
      have noBracket : '[' ∉ "Translated to WebAssembly (".toList ++
          Text.decimal (binary.getD []).length ++ " bytes)".toList := by
        simp only [List.mem_append, not_or]
        exact ⟨⟨by decide, Text.not_mem_decimal (by decide)⟩, by decide⟩
      obtain ⟨line, readable⟩ := exists_marked .success noBracket
      have summary := (printMarked_tells .success _).written readable
      have listing : ∃ text, (if textForm.getD "" ≠ "" then
          Console.printProgram ((textForm.getD "").toList ++ ['\n']) else pure ()).Prints (.ok ())
            text := by
        split
        · exact ⟨_, printProgram_prints _⟩
        · exact ⟨_, prints_pure ()⟩
      obtain ⟨text, written⟩ := listing
      simp only [printTranslated]
      exact ⟨_, summary.bind_ok written⟩

theorem presentTranslation_of_prints (prints : (printTranslation result).Prints (.ok ()) text) :
    (presentTranslation false result).Prints (.ok (statusOf result)) text := by
  simp only [presentTranslation, Bool.false_eq_true, if_false]
  exact prints.then_quiet (prints_pure _)

/-- What is written of a translation of a project that compiles, and the status that it ends
with. -/
theorem presentTranslation_prints (unharmed : result.exception = none)
    (compiled : result.status = .compiled)
    (prints : (printTranslated result.payload).Prints (.ok ()) text) :
    (presentTranslation false result).Prints (.ok (statusOf result))
      (diagnosticText result.diagnostics ++ text) := by
  apply presentTranslation_of_prints
  simp only [printTranslation, unharmed, if_pos compiled]
  exact (printDiagnostics_prints result.diagnostics).bind_ok prints

/-- A translation whose exception, if there is one, can be read ends with its status. The exception
is told right behind the diagnostics. -/
theorem exists_presentTranslation (readable : exceptionText result = .ok text) :
    ∃ more, (presentTranslation false result).Prints (.ok (statusOf result))
      (diagnosticText result.diagnostics ++ (text ++ more)) := by
  have diagnostics := printDiagnostics_prints result.diagnostics
  rw [exceptionText] at readable
  cases present : result.exception with
  | some exception =>
      rw [present] at readable
      have headed := (printMarked_tells .failure (headline exception)).written readable
      refine ⟨[], presentTranslation_of_prints ?_⟩
      simp only [printTranslation, present, List.append_nil]
      exact diagnostics.bind_ok headed
  | none =>
      rw [present] at readable
      obtain rfl := Except.ok.inj readable
      by_cases compiled : result.status = .compiled
      · obtain ⟨shown, written⟩ := exists_printTranslated result.payload
        exact ⟨shown, presentTranslation_prints present compiled written⟩
      · refine ⟨[], presentTranslation_of_prints ?_⟩
        simp only [printTranslation, present, if_neg compiled]
        exact diagnostics.bind_ok (prints_pure ())

/-- A translation whose exception cannot be read ends there. -/
theorem presentTranslation_unreadable (unreadable : exceptionText result = .error fault) :
    (presentTranslation false result).Prints (.error fault)
      (diagnosticText result.diagnostics ++ []) := by
  rw [exceptionText] at unreadable
  cases present : result.exception with
  | none =>
      rw [present] at unreadable
      cases unreadable
  | some exception =>
      rw [present] at unreadable
      have stopped := (printMarked_tells .failure (headline exception)).stopped unreadable
      have shown : (printTranslation result).Prints (.error fault)
          (diagnosticText result.diagnostics ++ []) := by
        simp only [printTranslation, present]
        exact (printDiagnostics_prints result.diagnostics).bind_ok stopped
      simp only [presentTranslation, Bool.false_eq_true, if_false]
      exact shown.bind_error

end Results

end Operation

namespace Invocation

open Operation

variable {invocation : Invocation} {result : Execution}

theorem exception_of_compiled (compiled : result.status = .compiled) : result.exception = none := by
  rw [Execution.status] at compiled
  split at compiled
  · cases compiled
  · split at compiled
    next => cases compiled
    next none => exact Option.not_isSome_iff_eq_none.mp none

/-- The output of a program, its byte code and a translated script are written as the console lays
them out. That is as they are exactly if they hold no tab and no control character that is
dropped, and all their lines fit; but a line that starts with a joiner may have more cells. -/
theorem program_shown (answered : invocation.served.1 = .ok (.outcome (.execution result)))
    (asText : invocation.arguments.asJson = false) :
    (invocation.command = .run → ∀ text, exceptionText result = .ok text →
      invocation.report.output = String.ofList (diagnosticText result.diagnostics ++
        (text ++ (layout false result.text.toList ++
          layout false (result.byteCode.getD "").toList)))) ∧
    (invocation.command = .translate → result.status = .compiled →
      ∀ code, result.payload = .script code →
        invocation.report.output = String.ofList (diagnosticText result.diagnostics ++
          layout false ((code.getD "").toList ++ ['\n']))) ∧
    ∀ text, (∀ line ∈ Text.lines text, line.head? ≠ some Text.joiner) →
      (layout false text = text ↔ IsClean text ∧ ∀ line ∈ Text.lines text, Fits line) := by
  refine ⟨?_, ?_, fun text => layout_eq_self_iff⟩
  · intro isRun text readable
    have prints : (invocation.command.present invocation.arguments
        (.outcome (.execution result))).Prints (.ok (statusOf result))
          (diagnosticText result.diagnostics ++ (text ++ programText result)) := by
      rw [isRun, Command.present, asText]
      exact presentRun_prints readable
    rw [report_of_prints answered prints]
    rfl
  · intro isTranslation compiled code script
    have prints : (invocation.command.present invocation.arguments
        (.outcome (.execution result))).Prints (.ok (statusOf result))
          (diagnosticText result.diagnostics ++
            layout false ((code.getD "").toList ++ ['\n'])) := by
      rw [isTranslation, Command.present, asText]
      apply presentTranslation_prints (exception_of_compiled compiled) compiled
      rw [script]
      exact printTranslated_script code
    rw [report_of_prints answered prints]
    rfl

end Invocation

/-- What a program came to that wrote a line that is too long, and a tab. -/
def Execution.overlong : Execution :=
  { Execution.empty .none with text := String.ofList (List.replicate 100 'a') ++ "\n\t." }

/-- The output of a run differs from what the program wrote. -/
theorem Invocation.program_shown_overlong :
    ∃ (invocation : Invocation) (result : Execution),
      invocation.command = .run ∧ invocation.arguments.asJson = false ∧
      invocation.served.1 = .ok (.outcome (.execution result)) ∧
      result.text = Execution.overlong.text ∧
      invocation.report.output = String.ofList (layout false result.text.toList) ∧
      layout false result.text.toList ≠ result.text.toList := by
  have staged : (staged? "jvm.run" (.outcome (.execution .overlong)) .run []).any
      (fun invocation => decide (invocation.command = .run) && !invocation.arguments.asJson &&
        invocation.comesTo fun result => decide (result.text = Execution.overlong.text) &&
          result.exception.isNone && result.byteCode.isNone &&
          decide (result.diagnostics = .empty)) = true := by
    decide +kernel
  obtain ⟨invocation, _, checked⟩ := (Option.any_eq_true _ _).mp staged
  simp only [Bool.and_eq_true, decide_eq_true_eq, Bool.not_eq_true'] at checked
  obtain ⟨⟨isRun, asText⟩, comes⟩ := checked
  obtain ⟨result, answered, checked⟩ := exists_of_comesTo comes
  simp only [Bool.and_eq_true, decide_eq_true_eq, Option.isNone_iff_eq_none] at checked
  obtain ⟨⟨⟨sameText, unharmed⟩, noByteCode⟩, quiet⟩ := checked
  obtain ⟨ofRun, _, unchanged⟩ := program_shown answered asText
  have readable : Operation.exceptionText result = .ok [] := by
    rw [Operation.exceptionText, unharmed]
  have silent : Operation.diagnosticText .empty = [] := rfl
  have noCode : layout false "".toList = [] := rfl
  have output := ofRun isRun [] readable
  rw [quiet, silent, noByteCode, Option.getD_none, noCode, List.append_nil, List.nil_append,
    List.nil_append] at output
  refine ⟨invocation, result, isRun, asText, answered, sameText, output, fun same => ?_⟩
  rw [sameText] at same
  have clean := ((unchanged Execution.overlong.text.toList (by decide +kernel)).mp same).1
  exact absurd rfl (clean '\t' (by decide +kernel)).2

end Multitarget
