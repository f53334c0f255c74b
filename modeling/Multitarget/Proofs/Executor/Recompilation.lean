import Multitarget.Proofs.Executor.Containment
import Multitarget.Proofs.Executor.Resaving

/-!
# Compiling again

A compilation to a directory that is repeated with the same answer of its backend leaves all
files as the first one did, whether that one returned or failed. It returns the same, and
fails the same way unless a directory could not be made after others that lead to it were:
then the second attempt fails at the directory itself.
-/

namespace Multitarget

/-! ## Operations -/

namespace Primary

variable {operation : Primary} {executor : Executor} {project : Project} {session : Session}

/-- An operation that is offered the same ends the same way, if there is a scratch context both
times. Where there is none the first time, nothing changes. -/
theorem shaped_again (twin : Session)
    (offers : ∀ offered,
      operation.Offers executor.backends project
        (SourceHandle.ofProject session.nextContext project) offered →
      operation.Offers executor.backends project
        (SourceHandle.ofProject twin.nextContext project) offered)
    (provided : (Scratch.acquire executor.scratch session).1.isOk = true →
      (Scratch.acquire executor.scratch twin).1.isOk = true) :
    (∃ fault, operation.shaped executor project session = (.error fault, session)) ∨
      (operation.shaped executor project twin).1 =
        (operation.shaped executor project session).1 := by
  by_cases routed : project.target.family = operation.family
  · by_cases noFiles : project.files = []
    · obtain ⟨events, yielded, _⟩ := shaped_vacant executor routed noFiles
      exact .inr (by rw [yielded session, yielded twin])
    · obtain ⟨offered, offering⟩ := operation.exists_offers executor.backends routed
        (SourceHandle.ofProject session.nextContext project)
      rcases shaped_run executor noFiles routed offering with
        ⟨fault, _, failed⟩ | ⟨acquired, after, ran, _⟩
      · exact .inl ⟨fault, failed⟩
      · right
        rcases shaped_run executor noFiles routed (offers offered offering) with
          ⟨fault, refused, _⟩ | ⟨_, final, again, _⟩
        · have given := provided acquired
          rw [refused] at given
          nomatch given
        · rw [ran, again]
  · obtain ⟨events, yielded, _⟩ := shaped_elsewhere executor routed
    exact .inr (by rw [yielded session, yielded twin])

/-- An operation ends the same way, report and all, where what comes of it is the same. -/
theorem perform_eq_of_shaped {twin : Session}
    (same : (operation.shaped executor project twin).1 =
      (operation.shaped executor project session).1) :
    (operation.perform executor project twin).1 =
      (operation.perform executor project session).1 := by
  cases shaped : (operation.shaped executor project session).1 with
  | error fault =>
      rw [(perform_of_shaped_fault shaped).1, (perform_of_shaped_fault (same.trans shaped)).1]
  | ok outcome =>
      rw [(perform_of_shaped_outcome shaped).2, (perform_of_shaped_outcome (same.trans shaped)).2]

end Primary

namespace Executor

variable {executor : Executor} {project : Project} {output : String} {session between : Session}
  {ending : Except Fault CompileResponse}

/-- How a compilation to a directory ends the second time: it returns the same, or its fault
recurs. -/
inductive EndsAgain (output : FilePath) :
    Except Fault CompileResponse → Except Fault CompileResponse → Prop where
  | returned (response : CompileResponse) : EndsAgain output (.ok response) (.ok response)
  | failed {first second : Fault} : first.Recurs (Artifacts.Prepares output) second →
      EndsAgain output (.error first) (.error second)

theorem EndsAgain.refl (output : FilePath) (ending : Except Fault CompileResponse) :
    EndsAgain output ending ending := by
  cases ending with
  | ok response => exact .returned response
  | error fault => exact .failed (.same fault)

/-- What came of the first compilation is saved again without a change of the files. -/
theorem compile_saves_again {outcome : Outcome} {shaped found : Session}
    (wellFormed : session.files.WellFormed)
    (passes : session.Passes shaped)
    (came : executor.compileClasses project session = (.ok outcome, shaped))
    (ran : executor.compile project output session = (ending, between))
    (cameAgain : executor.compileClasses project between = (.ok outcome, found))
    (passesAgain : between.files.WellFormed → between.Passes found) :
    ∃ again final, executor.compile project output between = (again, final) ∧
      final.files = between.files ∧ EndsAgain (.ofText output) ending again := by
  have untouched := Session.Writes.of_passes wellFormed passes
  have first := compile_of_outcome output came
  have second := compile_of_outcome output cameAgain
  cases saved : outcome.saving with
  | error fault =>
      simp only [saved] at first second
      rw [first, ended_inj] at ran
      obtain ⟨rfl, rfl⟩ := ran
      exact ⟨_, _, second, (passesAgain untouched.wellFormed).files_eq, .refl _ _⟩
  | ok saving =>
      simp only [saved] at first second
      rcases stored : Artifacts.storeBelow (.ofText output) saving.entries shaped with
        ⟨fault | written, left⟩
      · simp only [stored] at first
        rw [first, ended_inj] at ran
        obtain ⟨rfl, rfl⟩ := ran
        obtain ⟨_, _, writing⟩ := Artifacts.storeBelow_fault_writes untouched.wellFormed stored
        have follows := passesAgain writing.wellFormed
        obtain ⟨other, events, again, recurs⟩ := Artifacts.storeBelow_again_fault
          untouched.wellFormed stored follows.files_eq (follows.working_eq.trans writing.working)
        simp only [again] at second
        exact ⟨_, _, second, follows.files_eq, .failed recurs⟩
      · simp only [stored] at first
        obtain ⟨noted, first⟩ := first
        rw [first, ended_inj] at ran
        obtain ⟨rfl, rfl⟩ := ran
        obtain ⟨writing, _⟩ := Artifacts.storeBelow_writes untouched.wellFormed stored
        have follows := passesAgain writing.wellFormed
        obtain ⟨others, events, again⟩ := Artifacts.storeBelow_again untouched.wellFormed stored
          follows.files_eq (follows.working_eq.trans writing.working)
        simp only [again] at second
        obtain ⟨more, second⟩ := second
        exact ⟨_, _, second, follows.files_eq, .refl _ _⟩

/-- A compilation to a directory that is done again with the same answer leaves all files as they
are, whether the first one returned or failed part of the way. It returns the same, and its fault
recurs. -/
theorem compile_again (executor : Executor) (project : Project) (output : String)
    (wellFormed : session.files.WellFormed)
    (ran : executor.compile project output session = (ending, between))
    (answers : ∀ offered,
      Primary.compileClasses.Offers executor.backends project
        (SourceHandle.ofProject session.nextContext project) offered →
      Primary.compileClasses.Offers executor.backends project
        (SourceHandle.ofProject between.nextContext project) offered)
    (provided : (Scratch.acquire executor.scratch session).1.isOk = true →
      (Scratch.acquire executor.scratch between).1.isOk = true) :
    ∃ again final, executor.compile project output between = (again, final) ∧
      final.files = between.files ∧ EndsAgain (.ofText output) ending again := by
  rcases Primary.shaped_again between answers provided with ⟨fault, refused⟩ | same
  · -- Without a context the first time, the second one starts where the first one did.
    have came : executor.compileClasses project session = (.error fault, session) :=
      Primary.perform_of_shaped_error executor refused
    rw [compile_of_fault output (congrArg Prod.fst came), came, ended_inj] at ran
    obtain ⟨rfl, rfl⟩ := ran
    refine ⟨_, _, compile_of_fault output (congrArg Prod.fst came), ?_, .refl _ _⟩
    rw [came]
  · have alike : (executor.compileClasses project between).1 =
        (executor.compileClasses project session).1 := Primary.perform_eq_of_shaped same
    have passes : ∀ start : Session, start.files.WellFormed →
        start.Passes (executor.compileClasses project start).2 :=
      fun start => Primary.compileClasses.perform_passes executor project
    rcases came : executor.compileClasses project session with ⟨fault | outcome, shaped⟩
    · rw [came] at alike
      have done := passes session wellFormed
      rw [compile_of_fault output (congrArg Prod.fst came), came, ended_inj] at ran
      rw [came] at done
      obtain ⟨rfl, rfl⟩ := ran
      exact ⟨_, _, compile_of_fault output alike,
        (passes shaped (done.files_eq ▸ wellFormed)).files_eq, .refl _ _⟩
    · rcases cameAgain : executor.compileClasses project between with ⟨ended, found⟩
      rw [came, cameAgain] at alike
      obtain rfl : ended = .ok outcome := alike
      have done := passes session wellFormed
      rw [came] at done
      refine compile_saves_again wellFormed done came ran cameAgain fun stays => ?_
      have follows := passes between stays
      rwa [cameAgain] at follows

/-- An executor whose backend gives class files. -/
def givingClasses (files : List (String × Text.Bytes)) : Executor :=
  Scripted.executor [("jvm.compile", .ok (.outcome (.compilation (.compiled
    (.classes ⟨.ofList files, none⟩) .empty))))]

/-- An executor whose backend gives two class files of one path, and one that would be below
them. -/
def givingCollisions : Executor :=
  givingClasses [("A.class", [1]), ("./A.class", [2]), ("A.class/B.class", [3])]

/-- Two class files of one path are written before one below it cannot be, and again the second
time. -/
theorem compile_again_part_way :
    ∃ first second between final,
      givingCollisions.compile (.single .java) "out" Session.fresh = (.error first, between) ∧
      givingCollisions.compile (.single .java) "out" between = (.error second, final) ∧
      final.files = between.files ∧ first.Recurs (Artifacts.Prepares (.ofText "out")) second := by
  have fails : (givingCollisions.compile (.single .java) "out" Session.fresh).1.isOk = false := by
    decide +kernel
  have provided : (Scratch.acquire givingCollisions.scratch
      (givingCollisions.compile (.single .java) "out" Session.fresh).2).1.isOk = true := by
    decide +kernel
  rcases ran : givingCollisions.compile (.single .java) "out" Session.fresh with
    ⟨first | response, between⟩
  · rw [ran] at provided
    obtain ⟨again, final, repeated, kept, ends⟩ := compile_again givingCollisions (.single .java)
      "out" wellFormed_fresh ran (fun _ offers => offers) fun _ => provided
    cases ends with
    | @failed _ second recurs => exact ⟨first, second, between, final, rfl, repeated, kept, recurs⟩
  · simp [ran, Except.isOk, Except.toBool] at fails

/-- A session with a file in the working directory. -/
def besideFile : Session :=
  { Session.fresh with files := Session.fresh.files.put ["file"] (.file [1]) }

/-- The path and the obstacle that an ending tells of, if a file could not be used. -/
def obstacle? {α : Type} : Except Fault α → Option (Obstacle × String)
  | .error (.file (.obstacle obstacle path)) => some (obstacle, path)
  | _ => none

/-- The second of two equal compilations can fail with another fault than the first: the directory
that the first one made on its way makes the path lead to what is no directory. -/
theorem compile_again_differs :
    ∃ first second between final,
      (givingClasses []).compile (.single .java) "new/../file/out" besideFile =
        (.error first, between) ∧
      (givingClasses []).compile (.single .java) "new/../file/out" between =
        (.error second, final) ∧
      first = .file (.obstacle .exists "new/../file") ∧
      second = .file (.obstacle .notDirectory "new/../file/out") ∧ second ≠ first := by
  have told : obstacle? ((givingClasses []).compile (.single .java) "new/../file/out"
      besideFile).1 = some (.exists, "new/../file") := by
    decide +kernel
  have toldAgain : obstacle? ((givingClasses []).compile (.single .java) "new/../file/out"
      ((givingClasses []).compile (.single .java) "new/../file/out" besideFile).2).1 =
        some (.notDirectory, "new/../file/out") := by
    decide +kernel
  have known : ∀ {ending : Except Fault CompileResponse} {obstacle path},
      obstacle? ending = some (obstacle, path) →
        ending = .error (.file (.obstacle obstacle path)) := by
    intro ending obstacle path told
    unfold obstacle? at told
    split at told
    · simp only [Option.some.injEq, Prod.mk.injEq] at told
      rw [told.1, told.2]
    · nomatch told
  rcases ran : (givingClasses []).compile (.single .java) "new/../file/out" besideFile with
    ⟨first, between⟩
  rw [ran] at told toldAgain
  rcases again : (givingClasses []).compile (.single .java) "new/../file/out" between with
    ⟨second, final⟩
  rw [again] at toldAgain
  obtain rfl : first = _ := known told
  obtain rfl : second = _ := known toldAgain
  exact ⟨_, _, between, final, rfl, again, rfl, rfl, by simp⟩

end Executor

end Multitarget
