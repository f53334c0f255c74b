import Multitarget.Proofs.Command.Dump
import Multitarget.Proofs.Command.Number
import Multitarget.Proofs.Command.Shown
import Multitarget.Proofs.Command.Staging
import Multitarget.Proofs.Console.Survival
import Multitarget.Proofs.Domain.ShortPosition
import Multitarget.Proofs.Executor.Advisory

/-!
# Commands that advise

Once a project and a configuration are loaded, the commands that highlight and complete succeed
whatever the backend answers, as long as nothing asks to stop and no numeral is too long to be
written. What is highlighted is the line that there is nothing only where there is nothing: a line
of a diagnostic has a letter that this line lacks, or is longer.
-/

namespace Multitarget

open Action Console

/-! ## Lines of diagnostics -/

namespace Console.Markup

variable {text : List Char} {character : Char}

theorem mem_thin_of_mem (held : character ∈ text) (other : character ≠ '\\') :
    character ∈ thin text := by
  induction text with
  | nil => cases held
  | cons first rest ih =>
      rw [thin]
      split
      next dropped =>
        rcases List.mem_cons.mp held with rfl | later
        · exact absurd dropped.1 other
        · exact ih later
      next kept =>
        rcases List.mem_cons.mp held with rfl | later
        · exact List.mem_cons_self
        · exact List.mem_cons_of_mem _ (ih later)

/-- Escaping and reading a text loses nothing but backslashes. -/
theorem mem_passed_of_mem (held : character ∈ text) (other : character ≠ '\\') :
    character ∈ passed text :=
  List.mem_append_left _ (mem_thin_of_mem held other)

end Console.Markup

/-- The letter that the name of a severity starts with. -/
def Severity.letter : Severity → Char
  | .info => 'I'
  | .warning => 'W'
  | .error => 'E'

namespace Operation

/-- What is written where there are no diagnostics. -/
def noDiagnostics : List Char := "✓ No diagnostics\n".toList

/-- The line of a diagnostic shows the letter of its severity, or is at least a third as long as
the console is wide. -/
theorem letter_mem_shownLine (file : String) (diagnostic : Diagnostic) :
    diagnostic.severity.letter ∈ shownLine file diagnostic ∨
      lineWidth ≤ 3 * (shownLine file diagnostic).length := by
  have named : diagnostic.severity.letter ∈ diagnostic.severity.name.toList := by
    cases diagnostic.severity <;> decide
  have told : diagnostic.severity.letter ∈ Report.lineChars file diagnostic :=
    List.mem_append_right _ (List.mem_cons_of_mem _ (List.mem_cons_of_mem _
      (List.mem_append_left _ named)))
  have noBackslash : diagnostic.severity.letter ≠ '\\' := by
    cases diagnostic.severity <;> decide
  have shown : isSuppressed diagnostic.severity.letter = false := by
    cases diagnostic.severity <;> decide
  have visible : Text.isBlank diagnostic.severity.letter = false := by
    cases diagnostic.severity <;> decide
  exact mem_layout_of_mem
    (List.mem_append_right _ (Markup.mem_passed_of_mem told noBackslash)) shown visible

/-- What diagnostics are written as is not what is written where there are none. -/
theorem diagnosticText_ne {diagnostics : Diagnostics} (some : diagnostics.all ≠ []) :
    diagnosticText diagnostics ≠ noDiagnostics := by
  intro same
  obtain ⟨⟨file, diagnostic⟩, others, listed⟩ :
      ∃ first others, Report.located diagnostics = first :: others := by
    apply List.exists_cons_of_ne_nil
    rintro none
    rw [← Report.located_map_snd, none] at some
    exact some rfl
  rw [diagnosticText, listed, List.flatMap_cons, List.append_assoc] at same
  rcases letter_mem_shownLine file diagnostic with letter | long
  · have strange : diagnostic.severity.letter ∈ noDiagnostics :=
      same ▸ List.mem_append_left _ letter
    revert strange
    cases diagnostic.severity <;> decide
  · have length := congrArg List.length same
    have short : noDiagnostics.length = 17 := by decide
    have wide : lineWidth = 80 := rfl
    rw [List.length_append, short] at length
    omega

theorem isPresent_eq_false_iff (diagnostics : Diagnostics) :
    diagnostics.isPresent = false ↔ diagnostics.all = [] := by
  simp [Diagnostics.isPresent, Diagnostics.all, List.flatten_eq_nil_iff]

/-- What is highlighted: the diagnostics, or that there are none. -/
def highlightText (diagnostics : Diagnostics) : List Char :=
  if diagnostics.all = [] then noDiagnostics else diagnosticText diagnostics

theorem highlightText_eq_iff (diagnostics : Diagnostics) :
    highlightText diagnostics = noDiagnostics ↔ diagnostics.all = [] := by
  rw [highlightText]
  constructor
  · intro same
    by_cases none : diagnostics.all = []
    · exact none
    · rw [if_neg none] at same
      exact absurd same (diagnosticText_ne none)
  · intro none
    rw [if_pos none]

theorem ofList_highlightText_eq_iff (diagnostics : Diagnostics) :
    String.ofList (highlightText diagnostics) = "✓ No diagnostics\n" ↔ diagnostics.all = [] := by
  have asList (text : List Char) (written : String) :
      String.ofList text = written ↔ text = written.toList :=
    ⟨fun same => by rw [← same, String.toList_ofList],
      fun same => by rw [same, String.ofList_toList]⟩
  exact (asList _ _).trans (highlightText_eq_iff diagnostics)

theorem presentDiagnostics_prints (diagnostics : Diagnostics) :
    (presentDiagnostics false diagnostics).Prints (.ok Refusal.success)
      (highlightText diagnostics) := by
  rw [highlightText]
  by_cases none : diagnostics.all = []
  · have absent := (isPresent_eq_false_iff diagnostics).mpr none
    have readable : marked .success "No diagnostics".toList = .ok noDiagnostics :=
      ok_of_toOption (by decide +kernel)
    simp only [presentDiagnostics, absent, if_pos none, Bool.false_eq_true, if_false]
    exact ((printMarked_tells .success _).written readable).then_quiet (prints_pure _)
  · have present : diagnostics.isPresent = true := by
      refine Bool.not_eq_false _ |>.mp fun absent => none ?_
      exact (isPresent_eq_false_iff diagnostics).mp absent
    simp only [presentDiagnostics, present, if_neg none, Bool.false_eq_true, if_false, if_true]
    exact (printDiagnostics_prints diagnostics).then_quiet (prints_pure _)

end Operation

/-! ## Requests that advise -/

namespace Request

/-- Whether an operation is what a request that advises meets for the files of a project. -/
def Meets (executor : Executor) (project : Project) (context : ContextId)
    (offered : Operation (Answer Reply)) : Request → Prop
  | .highlight => project.files ≠ [] → project.target.highlighted.Offers executor.backends project
      (SourceHandle.ofProject context project) offered
  | .complete line column => ∀ file ∈ (SourceHandle.ofProject context project).head?,
      executor.backends.complete.map (fun call =>
        call file line column project.target context) = offered
  | _ => False

/-- Whether a request that advises can be answered with a reply: completing with proposals, and
highlighting with diagnostics whose positions have short numerals. -/
def Takes : Request → Reply → Prop
  | .highlight, .outcome outcome => outcome.diagnostics.AreShort
  | .highlight, .proposals _ => True
  | .complete _ _, reply => ∃ items, reply = .proposals items
  | _, _ => False

end Request

namespace Invocation

variable {invocation : Invocation} {offered : Operation (Answer Reply)}

/-- Highlighting comes to diagnostics that can be written. -/
theorem served_highlight (asked : invocation.request = .highlight)
    (provides : ∀ exception ∈ invocation.executor.scratch.refusal, exception.isFault = true)
    (met : invocation.request.Meets invocation.executor invocation.project
      invocation.ready.nextContext offered)
    (contained : offered.isContained = true)
    (taken : ∀ reply, offered = .ready (.ok reply) → invocation.request.Takes reply) :
    ∃ diagnostics, invocation.served.1 = .ok (.diagnostics diagnostics) ∧
      diagnostics.AreShort := by
  rw [asked] at met taken
  obtain ⟨diagnostics, answered, said⟩ := Executor.highlight_says contained provides met
  refine ⟨diagnostics, ?_, fun diagnostic held => ?_⟩
  · rw [served, asked, Request.perform, map_run, answered]
    rfl
  · obtain ⟨outcome, same, among⟩ := said diagnostic held
    exact taken (.outcome outcome) same diagnostic among

/-- Completing comes to proposals. -/
theorem served_complete {line column : Int} (asked : invocation.request = .complete line column)
    (provides : ∀ exception ∈ invocation.executor.scratch.refusal, exception.isFault = true)
    (met : invocation.request.Meets invocation.executor invocation.project
      invocation.ready.nextContext offered)
    (contained : offered.isContained = true)
    (taken : ∀ reply, offered = .ready (.ok reply) → invocation.request.Takes reply) :
    ∃ items, invocation.served.1 = .ok (.proposals (.proposals items)) := by
  rw [asked] at met taken
  obtain ⟨items, answered⟩ := Executor.complete_proposes contained provides taken met
  refine ⟨items, ?_⟩
  rw [served, asked, Request.perform, map_run, answered]
  rfl

/-- The report of highlighting where the diagnostics can be written. -/
theorem report_of_diagnostics (isHighlight : invocation.command = .highlight)
    {diagnostics : Diagnostics} (answered : invocation.served.1 = .ok (.diagnostics diagnostics))
    (short : diagnostics.AreShort) :
    invocation.report = ⟨Refusal.success,
      String.ofList (if invocation.arguments.asJson then
          Json.printIndented 0 diagnostics.toDocument ++ ['\n']
        else Operation.highlightText diagnostics), "", none⟩ := by
  have prints : (invocation.command.present invocation.arguments
      (.diagnostics diagnostics)).Prints (.ok Refusal.success)
        (if invocation.arguments.asJson then
          Json.printIndented 0 diagnostics.toDocument ++ ['\n']
        else Operation.highlightText diagnostics) := by
    rw [isHighlight, Command.present]
    cases invocation.arguments.asJson with
    | false => exact Operation.presentDiagnostics_prints diagnostics
    | true =>
        exact (Operation.presentDiagnostics_tells diagnostics).written
          (if_pos short.isWritable)
  exact report_of_prints answered prints

/-- The report of completing. -/
theorem report_of_proposals (isComplete : invocation.command = .complete)
    {items : List Completion}
    (answered : invocation.served.1 = .ok (.proposals (.proposals items))) :
    invocation.report = ⟨Refusal.success,
      String.ofList (Json.printIndented 0 (.array (items.map Completion.toDocument)) ++ ['\n']),
      "", none⟩ := by
  have prints : (invocation.command.present invocation.arguments
      (.proposals (.proposals items))).Prints (.ok Refusal.success)
        (Json.printIndented 0 (.array (items.map Completion.toDocument)) ++ ['\n']) := by
    rw [isComplete, Command.present]
    exact (Operation.presentProposals_tells (.proposals items)).written
      (if_pos (Completion.areWritable items))
  exact report_of_prints answered prints

/-- A command that highlights or completes succeeds, whatever its backend answers, if nothing asks
to stop and no numeral is too long. Highlighting says that there is nothing exactly where there is
nothing, and any position that is not too long can be asked for. -/
theorem advice_told (advises : invocation.command ∈ [.highlight, .complete])
    (provides : ∀ exception ∈ invocation.executor.scratch.refusal, exception.isFault = true)
    (met : invocation.request.Meets invocation.executor invocation.project
      invocation.ready.nextContext offered)
    (contained : offered.isContained = true)
    (taken : ∀ reply, offered = .ready (.ok reply) → invocation.request.Takes reply) :
    invocation.report.status = Refusal.success ∧ invocation.report.uncaught = none ∧
    invocation.report.errors = "" ∧
    (invocation.command = .highlight → invocation.arguments.asJson = false →
      ∃ diagnostics, invocation.served.1 = .ok (.diagnostics diagnostics) ∧
        (invocation.report.output = "✓ No diagnostics\n" ↔ diagnostics.all = [])) ∧
    ∀ (path : String) (line column : Int), '\x00' ∉ path.toList →
      (Text.decimal line.natAbs).length ≤ Text.numeralLimit →
      (Text.decimal column.natAbs).length ≤ Text.numeralLimit →
      Arguments.ofWords .complete ["--project", path,
          "--line", String.ofList (Text.integer line),
          "--ch", String.ofList (Text.integer column)] =
        .ok { Arguments.default with project := path, line, column } := by
  have positions := fun (path : String) (line column : Int) isPath =>
    @Arguments.ofWords_positions path line isPath column
  have request := invocation.asked
  have either : invocation.command = .highlight ∨ invocation.command = .complete := by
    simpa using advises
  rcases either with isHighlight | isComplete
  · rw [isHighlight] at request
    obtain ⟨diagnostics, answered, short⟩ :=
      served_highlight (Option.some.inj request).symm provides met contained taken
    have report := report_of_diagnostics isHighlight answered short
    refine ⟨by rw [report], by rw [report], by rw [report], fun _ asText => ?_, positions⟩
    refine ⟨diagnostics, answered, ?_⟩
    simp only [report, asText, Bool.false_eq_true, if_false]
    exact Operation.ofList_highlightText_eq_iff diagnostics
  · rw [isComplete] at request
    obtain ⟨items, answered⟩ :=
      served_complete (Option.some.inj request).symm provides met contained taken
    have report := report_of_proposals isComplete answered
    refine ⟨by rw [report], by rw [report], by rw [report], fun isHighlight => ?_, positions⟩
    rw [isComplete] at isHighlight
    cases isHighlight

end Invocation

/-! ## Staged diagnostics -/

/-- Whether the reply of an operation has these diagnostics. -/
def Operation.isReplied (diagnostics : Diagnostics) : Operation (Answer Reply) → Bool
  | .ready (.ok (.outcome outcome)) => decide (outcome.diagnostics = diagnostics)
  | _ => false

theorem Operation.exists_of_isReplied {offered : Operation (Answer Reply)}
    {diagnostics : Diagnostics} (replied : offered.isReplied diagnostics = true) :
    ∃ outcome, offered = .ready (.ok (.outcome outcome)) ∧ outcome.diagnostics = diagnostics := by
  unfold isReplied at replied
  split at replied
  next outcome => exact ⟨outcome, rfl, of_decide_eq_true replied⟩
  next => cases replied

namespace Invocation

/-- Whether a request comes to these diagnostics. -/
def highlights (invocation : Invocation) (diagnostics : Diagnostics) : Bool :=
  match invocation.served.1 with
  | .ok (.diagnostics found) => decide (found = diagnostics)
  | _ => false

theorem served_of_highlights {invocation : Invocation} {diagnostics : Diagnostics}
    (highlights : invocation.highlights diagnostics = true) :
    invocation.served.1 = .ok (.diagnostics diagnostics) := by
  rw [Invocation.highlights] at highlights
  split at highlights
  next found answered => rw [answered, of_decide_eq_true highlights]
  next => cases highlights

/-- Whether a request comes to these proposals. -/
def proposes (invocation : Invocation) (items : List Completion) : Bool :=
  match invocation.served.1 with
  | .ok (.proposals (.proposals found)) => decide (found = items)
  | _ => false

theorem served_of_proposes {invocation : Invocation} {items : List Completion}
    (proposes : invocation.proposes items = true) :
    invocation.served.1 = .ok (.proposals (.proposals items)) := by
  rw [Invocation.proposes] at proposes
  split at proposes
  next found answered => rw [answered, of_decide_eq_true proposes]
  next => cases proposes

end Invocation

/-- Diagnostics that read like the end of a tag. -/
def Diagnostics.bracketed : Diagnostics :=
  ⟨Keyed.ofList [("File.kt", [⟨none, "[/x]\\", .error, none⟩])]⟩

/-- Highlighting what reads like the end of a tag succeeds, and does not say that there is
nothing. -/
theorem Invocation.advice_told_bracketed :
    ∃ invocation : Invocation, invocation.command = .highlight ∧
      invocation.arguments.asJson = false ∧
      invocation.served.1 = .ok (.diagnostics .bracketed) ∧
      invocation.report.status = Refusal.success ∧
      invocation.report.output ≠ "✓ No diagnostics\n" := by
  let offers (invocation : Invocation) : Operation (Answer Reply) :=
    invocation.executor.backends.compile.map fun call =>
      call (SourceHandle.ofProject invocation.ready.nextContext invocation.project)
        invocation.project.addClasspath
  have staged : (prepared? "jvm.compile" (.outcome (.compilation (.notCompiled .bracketed)))
      .highlight []).any (fun invocation => decide (invocation.command = .highlight) &&
        !invocation.arguments.asJson && decide (invocation.project.target = .java) &&
        invocation.executor.scratch.refusal.isNone && (offers invocation).isReplied .bracketed &&
        invocation.highlights .bracketed) = true := by
    decide +kernel
  obtain ⟨invocation, _, checked⟩ := (Option.any_eq_true _ _).mp staged
  simp only [Bool.and_eq_true, decide_eq_true_eq, Bool.not_eq_true',
    Option.isNone_iff_eq_none] at checked
  obtain ⟨⟨⟨⟨⟨isHighlight, asText⟩, isJava⟩, provides⟩, replied⟩, highlighted⟩ := checked
  obtain ⟨outcome, offered, said⟩ := Operation.exists_of_isReplied replied
  have answered := served_of_highlights highlighted
  have asked : invocation.request = .highlight := by
    have request := invocation.asked
    rw [isHighlight] at request
    exact (Option.some.inj request).symm
  have short : outcome.diagnostics.AreShort := by
    rw [said]
    intro diagnostic held interval placed
    obtain rfl := List.mem_singleton.mp held
    cases placed
  have told := @advice_told invocation (offers invocation)
    (by simp [isHighlight]) (by simp [provides])
    (by rw [asked, Request.Meets, isJava]; exact fun _ => rfl)
    (by rw [offered]; rfl)
    (by
      intro reply same
      rw [offered] at same
      obtain rfl := Except.ok.inj (Operation.ready.inj same)
      rw [asked]
      exact short)
  obtain ⟨succeeds, _, _, silent, _⟩ := told
  obtain ⟨diagnostics, same, iff⟩ := silent isHighlight asText
  rw [answered] at same
  obtain rfl := Response.diagnostics.inj (Except.ok.inj same)
  exact ⟨invocation, isHighlight, asText, answered, succeeds, fun none => absurd (iff.mp none)
    (by decide +kernel)⟩

/-! ## Numerals that are too long -/

/-- A completion at a line whose numeral is too long is a misuse. -/
theorem CommandLine.status_of_long_line {path : String} {line : Int}
    (isPath : '\x00' ∉ path.toList)
    (long : Text.numeralLimit < (Text.decimal line.natAbs).length) (column : String)
    (surroundings : Surroundings) (onConsole : Bool) (session : Session) :
    (runCommand surroundings onConsole .complete
      ["--project", path, "--line", String.ofList (Text.integer line), "--ch", column]
      session).1.status = Refusal.systemError := by
  simp only [runCommand, Arguments.ofWords_long_line isPath long column]
  rfl

/-- A diagnostic at a line whose numeral is too long to be written. -/
def Diagnostic.distant : Diagnostic :=
  ⟨some ⟨⟨Text.overlong, 0⟩, ⟨Text.overlong, 0⟩⟩, "", .error, none⟩

/-- The diagnostics of a distant line. -/
def Diagnostics.distant : Diagnostics := ⟨Keyed.ofList [("File.kt", [.distant])]⟩

theorem Diagnostics.isWritable_distant : Json.isWritable distant.toDocument = false := by
  have held : Diagnostic.distant ∈ distant.all := List.mem_singleton.mpr rfl
  refine Bool.eq_false_iff.mpr fun writable => ?_
  exact absurd (line_le_of_isWritable writable held rfl)
    (Nat.not_le_of_lt Text.numeralLimit_lt_overlong)

/-- The project of a completion that is served is not completed at a line whose numeral is too
long, and a diagnostic at such a line is not written as JSON. -/
theorem Invocation.advice_refused :
    (∃ invocation : Invocation, invocation.command = .complete ∧
      invocation.words = ["--project", "project.json", "--line", "0", "--ch", "0"] ∧
      invocation.report.status = Refusal.success ∧
      (CommandLine.runCommand invocation.surroundings invocation.onConsole .complete
        ["--project", "project.json",
          "--line", String.ofList (Text.integer Text.overlong), "--ch", "0"]
        invocation.session).1.status = Refusal.systemError) ∧
    ∃ invocation : Invocation, invocation.command = .highlight ∧
      invocation.arguments.asJson = true ∧
      invocation.served.1 = .ok (.diagnostics .distant) ∧
      invocation.report.status = Refusal.userError ∧
      invocation.report.uncaught = some .longNumeral := by
  constructor
  · have staged : (prepared? "completion" (.proposals []) .complete
        ["--line", "0", "--ch", "0"]).any (fun invocation =>
          decide (invocation.command = .complete) &&
          decide (invocation.words =
            ["--project", "project.json", "--line", "0", "--ch", "0"]) &&
          invocation.proposes []) = true := by
      decide +kernel
    obtain ⟨invocation, _, checked⟩ := (Option.any_eq_true _ _).mp staged
    simp only [Bool.and_eq_true, decide_eq_true_eq] at checked
    obtain ⟨⟨isComplete, words⟩, proposed⟩ := checked
    have succeeds : invocation.report.status = Refusal.success := by
      rw [report_of_proposals isComplete (served_of_proposes proposed)]
    refine ⟨invocation, isComplete, words, succeeds, ?_⟩
    apply CommandLine.status_of_long_line (by decide)
    rw [Int.natAbs_natCast]
    exact Text.numeralLimit_lt_overlong
  · have staged : (prepared? "jvm.compile" (.outcome (.compilation (.notCompiled .distant)))
        .highlight ["--json"]).any (fun invocation =>
          decide (invocation.command = .highlight) && invocation.arguments.asJson &&
          invocation.highlights .distant) = true := by
      decide +kernel
    obtain ⟨invocation, _, checked⟩ := (Option.any_eq_true _ _).mp staged
    simp only [Bool.and_eq_true, decide_eq_true_eq] at checked
    obtain ⟨⟨isHighlight, asJson⟩, highlighted⟩ := checked
    have answered := served_of_highlights highlighted
    have silent : Console.spelled Diagnostics.distant.toDocument = .error .longNumeral := by
      rw [Console.spelled, Diagnostics.isWritable_distant, if_neg Bool.false_ne_true]
    have stopped := (Operation.presentDiagnostics_tells .distant).stopped silent
    have report : invocation.report = CommandLine.concluded "" (.error .longNumeral) := by
      apply report_of_prints answered
      rw [isHighlight, Command.present, asJson]
      exact stopped
    refine ⟨invocation, isHighlight, asJson, answered, ?_, ?_⟩ <;> rw [report] <;> rfl

end Multitarget
