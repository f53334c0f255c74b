import Multitarget.Proofs.Domain.Restriction
import Multitarget.Proofs.Executor.Highlight

/-!
# Advisory operations

Highlighting and completing answer whenever nothing asks to stop. What is highlighted was said
by the reply of the backend, and what is proposed is a list of proposals.
-/

namespace Multitarget

theorem Outcome.diagnostics_shape (outcome : Outcome) (project : Project) :
    (outcome.shape project).diagnostics = outcome.diagnostics.forProject project := by
  rcases outcome with result | ⟨artifact, diagnostics⟩ | diagnostics <;> rfl

/-! ## Highlighting -/

/-- Whether a diagnostic is said by the reply of an operation. -/
def Operation.Says (offered : Operation (Answer Reply)) (diagnostic : Diagnostic) : Prop :=
  ∃ outcome, offered = .ready (.ok (.outcome outcome)) ∧ diagnostic ∈ outcome.diagnostics.all

/-- Whether what an operation replies are proposals. -/
def Operation.Proposes (offered : Operation (Answer Reply)) : Prop :=
  ∀ reply, offered = .ready (.ok reply) → ∃ items, reply = .proposals items

namespace Primary

variable {operation : Primary} {project : Project} {offered : Operation (Answer Reply)}

theorem exists_of_reply {change : Outcome → Outcome} {outcome : Outcome}
    (came : (do return change (← (← offered.reply).asOutcome) : Except Fault Outcome) =
      .ok outcome) :
    ∃ reply, offered = .ready (.ok (.outcome reply)) ∧ change reply = outcome := by
  rcases offered with (exception | (reply | items)) | exception | exception
  · cases came
  · exact ⟨reply, rfl, Except.ok.inj came⟩
  · cases came
  · cases came
  · cases came

/-- A translator makes only diagnostics that were said. -/
theorem says_of_translator {translator : Translator} {result : Execution}
    {diagnostic : Diagnostic} (came : translator.ending offered = .ok result)
    (held : diagnostic ∈ result.diagnostics.all) : offered.Says diagnostic := by
  have described : ∀ {exception : Exception}, translator.contained exception = .ok result →
      offered.Says diagnostic := by
    intro exception described
    rw [Translator.contained] at described
    split at described
    · rw [← Except.ok.inj described] at held
      cases held
    · cases described
  rcases offered with (exception | (known | items)) | exception | exception
  · exact described came
  · exact ⟨known, rfl, Translator.diagnostics_translated came ▸ held⟩
  · cases came
  · cases came
  · exact described came

/-- An operation for a project with files makes only diagnostics that were said. -/
theorem says_of_ending (hasFiles : project.files ≠ []) {outcome : Outcome}
    {diagnostic : Diagnostic} (came : operation.ending project offered = .ok outcome)
    (held : diagnostic ∈ outcome.diagnostics.all) : offered.Says diagnostic := by
  cases operation with
  | run | test =>
      obtain ⟨reply, same, rfl⟩ := exists_of_reply came
      rw [Outcome.diagnostics_shape] at held
      exact ⟨reply, same, reply.diagnostics.mem_all_of_forProject project hasFiles held⟩
  | compileClasses =>
      obtain ⟨reply, same, rfl⟩ := exists_of_reply came
      rw [Outcome.diagnostics_shapeCompilation] at held
      exact ⟨reply, same, reply.diagnostics.mem_all_of_forProject project hasFiles held⟩
  | translate translator =>
      cases known : translator.ending offered with
      | error fault =>
          rw [ending, known] at came
          cases came
      | ok result =>
          rw [ending, known] at came
          obtain rfl := Except.ok.inj came
          exact says_of_translator known
            (result.diagnostics.mem_all_of_forProject project hasFiles held)

end Primary

namespace Executor

variable {executor : Executor} {project : Project} {session : Session}
  {offered : Operation (Answer Reply)}

/-- Highlighting answers with diagnostics, all of which the backend said. -/
theorem highlight_says (contained : offered.isContained = true)
    (provides : ∀ exception ∈ executor.scratch.refusal, exception.isFault = true)
    (offers : project.files ≠ [] → project.target.highlighted.Offers executor.backends project
      (SourceHandle.ofProject session.nextContext project) offered) :
    ∃ diagnostics, (executor.highlight project session).1 = .ok diagnostics ∧
      ∀ diagnostic ∈ diagnostics.all, offered.Says diagnostic := by
  have routed := project.target.family_highlighted.symm
  cases came : (project.target.highlighted.shaped executor project session).1 with
  | error fault =>
      have isContained := Primary.isContained_of_shaped contained provides routed offers came
      have answered := highlight_ending (.error fault) (by rw [came]; rfl)
        fun other raised => Except.error.inj raised ▸ isContained
      exact ⟨.empty, answered, nofun⟩
  | ok outcome =>
      have answered := highlight_ending (.ok outcome.diagnostics) (by rw [came]; rfl) nofun
      refine ⟨outcome.diagnostics, answered, fun diagnostic held => ?_⟩
      rw [Primary.shaped_ending routed offers] at came
      split at came
      next noFiles =>
        rw [← Except.ok.inj came, Primary.diagnostics_vacant] at held
        cases held
      next hasFiles =>
        cases acquired : (Scratch.acquire executor.scratch session).1 with
        | error fault =>
            rw [acquired] at came
            cases came
        | ok scratch =>
            rw [acquired] at came
            exact Primary.says_of_ending hasFiles came held

/-! ## Completing -/

/-- Asking for proposals gives proposals, or fails with what can be contained. -/
theorem proposals_ending {line column : Int} {context : ContextId}
    (contained : offered.isContained = true) (proposes : offered.Proposes)
    (offers : ∀ file ∈ (SourceHandle.ofProject context project).head?,
      executor.backends.complete.map (fun call =>
        call file line column project.target context) = offered) :
    (∃ items, (executor.proposals project line column context session).1 =
      .ok (.proposals items)) ∨
    ∃ fault, (executor.proposals project line column context session).1 = .error fault ∧
      fault.isContained = true := by
  unfold proposals
  cases listed : SourceHandle.ofProject context project with
  | nil =>
      exact .inl ⟨[], rfl⟩
  | cons file rest =>
      by_cases inside : file.containsPosition line column
      · obtain rfl := offers file (by rw [listed]; rfl)
        obtain ⟨events, yielded, _⟩ := Translation.call_makes
          (.complete file line column project.target context)
          (executor.backends.complete.map fun call =>
            call file line column project.target context)
        simp only [if_pos inside, yielded session]
        generalize executor.backends.complete.map (fun call =>
          call file line column project.target context) = offered at contained proposes
        rcases offered with (exception | reply) | exception | exception
        · exact .inr ⟨_, rfl, contained⟩
        · obtain ⟨items, rfl⟩ := proposes reply rfl
          exact .inl ⟨items, rfl⟩
        · exact .inr ⟨_, rfl, contained⟩
        · exact .inr ⟨_, rfl, contained⟩
      · right
        simp only [if_neg inside]
        exact ⟨_, rfl, rfl⟩

/-- Completing answers with proposals. -/
theorem complete_proposes {line column : Int} (contained : offered.isContained = true)
    (provides : ∀ exception ∈ executor.scratch.refusal, exception.isFault = true)
    (proposes : offered.Proposes)
    (offers : ∀ file ∈ (SourceHandle.ofProject session.nextContext project).head?,
      executor.backends.complete.map (fun call =>
        call file line column project.target session.nextContext) = offered) :
    ∃ items, (executor.complete project line column session).1 = .ok (.proposals items) := by
  rw [complete_eq, orElseLogged_run]
  rcases Scratch.ending_within executor.scratch (executor.proposals project line column) session
    with ⟨fault, refused, ran⟩ | ⟨place, _, _, ran⟩
  · have isContained := Scratch.isContained_of_acquire provides (congrArg Prod.fst refused)
    rw [ran]
    simp only [isContained, if_true]
    exact ⟨[], rfl⟩
  · have ends := @proposals_ending executor project (Scratch.opened session place) offered
      line column session.nextContext contained proposes offers
    rw [ran]
    rcases ends with ⟨items, came⟩ | ⟨fault, came, isContained⟩
    · rw [came]
      exact ⟨items, rfl⟩
    · rw [came]
      simp only [isContained, if_true]
      exact ⟨[], rfl⟩

end Executor

end Multitarget
