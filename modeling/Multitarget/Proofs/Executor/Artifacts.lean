import Multitarget.Executor.Artifacts
import Multitarget.Proofs.Session.Writes

/-!
# What persisting writes

Artifacts are written one after another below the output directory. Two of them
share a location only if they share a path, so a path holds the last artifact that
it was resolved for, and every file that no artifact was resolved for is as before.
-/

namespace Multitarget

namespace FileTree

/-- Parts that do not lead upwards lead straight down. -/
theorem foldl_descend (location : Location) {parts : List String} (downwards : ".." ∉ parts) :
    parts.foldl descend location = location ++ parts := by
  induction parts generalizing location with
  | nil => simp
  | cons part rest ih =>
      have below : ".." ∉ rest := fun up => downwards (List.mem_cons_of_mem _ up)
      have other : part ≠ ".." := by
        rintro rfl
        simp at downwards
      rw [List.foldl_cons, descend, if_neg other, ih _ below, List.append_assoc,
        List.singleton_append]

end FileTree

namespace Artifacts

open FileTree (locate)

/-! ## Paths -/

/-- An artifact's path goes from the output directory straight down. -/
theorem parts_of_resolve {output path : FilePath} {artifact : String}
    (resolved : resolve output artifact = some path) :
    ∃ below, ".." ∉ below ∧ path = ⟨output.root, output.parts ++ below⟩ := by
  simp only [resolve] at resolved
  split at resolved
  next refused => simp at resolved
  next accepted =>
    simp only [not_or, Bool.not_eq_true, List.contains_eq_mem, decide_eq_false_iff_not] at accepted
    exact ⟨_, accepted.2.2, (Option.some.inj resolved).symm⟩

theorem locate_below (working : Location) (output : FilePath) {below : List String}
    (downwards : ".." ∉ below) :
    locate working ⟨output.root, output.parts ++ below⟩ = locate working output ++ below := by
  rw [FileTree.locate_eq, FileTree.locate_eq, List.foldl_append,
    FileTree.foldl_descend _ downwards]
  rfl

/-- Artifacts of one location have one path. -/
theorem locate_inj {working : Location} {output path other : FilePath} {artifact another : String}
    (resolved : resolve output artifact = some path)
    (resolvedOther : resolve output another = some other) :
    locate working path = locate working other ↔ path = other := by
  obtain ⟨below, downwards, rfl⟩ := parts_of_resolve resolved
  obtain ⟨under, downwardsOther, rfl⟩ := parts_of_resolve resolvedOther
  rw [locate_below working output downwards, locate_below working output downwardsOther]
  simp

/-! ## Writing artifacts -/

/-- The content of the last artifact that a path is resolved for. -/
def lastContent (output : FilePath) (entries : List (String × Text.Bytes)) (path : FilePath) :
    Option Text.Bytes :=
  (entries.filter fun entry => resolve output entry.1 = some path).getLast?.map Prod.snd

/-- Where artifacts are written, with their content. -/
def targets (working : Location) (output : FilePath) (entries : List (String × Text.Bytes)) :
    List (Location × Text.Bytes) :=
  entries.filterMap fun entry =>
    (resolve output entry.1).map fun path => (locate working path, entry.2)

/-- What is written at an artifact's location is written at its path. -/
theorem lastWrite_targets {working : Location} {output path : FilePath} {artifact : String}
    (resolved : resolve output artifact = some path) (entries : List (String × Text.Bytes)) :
    lastWrite (targets working output entries) (locate working path) =
      lastContent output entries path := by
  -- Locations tell paths apart, so picking writes by location is picking artifacts by path.
  have same : (targets working output entries).filter (fun write => write.1 = locate working path) =
      (entries.filter fun entry => resolve output entry.1 = some path).map
        fun entry => (locate working path, entry.2) := by
    induction entries with
    | nil => rfl
    | cons entry rest ih =>
        cases other : resolve output entry.1 with
        | none => simpa [targets, other] using ih
        | some place =>
            have apart := @locate_inj working _ _ _ _ _ other resolved
            by_cases here : place = path
            · subst here
              simpa [targets, other] using ih
            · simpa [targets, other, here, apart] using ih
  rw [lastWrite, same, lastContent, List.getLast?_map, Option.map_map]
  rfl

/-- Nothing is written where no artifact is. -/
theorem lastWrite_targets_elsewhere {working location : Location} {output : FilePath}
    {entries : List (String × Text.Bytes)}
    (elsewhere : ∀ entry ∈ entries, ∀ path, resolve output entry.1 = some path →
      location ≠ locate working path) :
    lastWrite (targets working output entries) location = none := by
  have none : (targets working output entries).filter (fun write => write.1 = location) = [] := by
    rw [List.filter_eq_nil_iff]
    intro write listed
    obtain ⟨entry, present, came⟩ := List.mem_filterMap.mp listed
    obtain ⟨path, resolved, rfl⟩ := Option.map_eq_some_iff.mp came
    simpa using (elsewhere entry present path resolved).symm
  rw [lastWrite, none]
  rfl

/-- Writing artifacts that succeeds writes each at its path, where it can be read. -/
theorem storeAll_writes {output : FilePath} {entries : List (String × Text.Bytes)}
    {session after : Session} {written : List FilePath} (wellFormed : session.files.WellFormed)
    (ran : storeAll output entries session = (.ok written, after)) :
    session.Writes (targets session.working output entries) after ∧
    ∀ entry ∈ entries, ∃ path, resolve output entry.1 = some path ∧
      after.files.LeadsToFile after.working path := by
  -- Each artifact is written into the tree that those before it left, and stays readable there
  -- because later ones only make the tree grow.
  induction entries generalizing session written with
  | nil =>
      rw [storeAll, pure_run, ended_inj] at ran
      obtain ⟨_, rfl⟩ := ran
      exact ⟨.of_passes wellFormed (.refl session), by simp⟩
  | cons entry rest ih =>
      obtain ⟨artifact, content⟩ := entry
      simp only [storeAll] at ran
      cases resolved : resolve output artifact with
      | none => simp [resolved, Action.fail] at ran
      | some path =>
          rw [resolved] at ran
          obtain ⟨_, prepared, made, ran⟩ := bind_eq_ok ran
          obtain ⟨_, stored, put, ran⟩ := bind_eq_ok ran
          obtain ⟨others, last, continued, ran⟩ := bind_eq_ok ran
          rw [pure_run, ended_inj] at ran
          obtain ⟨_, rfl⟩ := ran
          have preparing := Action.prepareDirectory_writes wellFormed made
          obtain ⟨storing, leads⟩ := Action.storeFile_writes preparing.wellFormed put
          have first := preparing.trans storing
          obtain ⟨continuing, others⟩ := ih storing.wellFormed continued
          refine ⟨?_, fun entry present => ?_⟩
          · have all := first.trans continuing
            simpa [targets, resolved, preparing.working, storing.working] using all
          · rcases List.mem_cons.mp present with rfl | later
            · refine ⟨path, resolved, ?_⟩
              rw [continuing.working]
              exact leads.grows continuing.grows
            · exact others entry later

/-- Saving class files writes what writing them does. -/
theorem storeClasses_writes {output : FilePath} {files : Keyed Text.Bytes}
    {session after : Session} {written : List FilePath} (wellFormed : session.files.WellFormed)
    (ran : storeClasses files output session = (.ok written, after)) :
    session.Writes (targets session.working output files.entries) after ∧
    ∀ entry ∈ files.entries, ∃ path, resolve output entry.1 = some path ∧
      after.files.LeadsToFile after.working path := by
  obtain ⟨_, prepared, made, ran⟩ := bind_eq_ok ran
  obtain ⟨_, stored, put, ran⟩ := bind_eq_ok ran
  rw [bind_of_ok (Action.log_run _ _ _ stored), pure_run, ended_inj] at ran
  obtain ⟨_, rfl⟩ := ran
  have preparing := Action.prepareDirectory_writes wellFormed made
  obtain ⟨storing, leads⟩ := storeAll_writes preparing.wellFormed put
  refine ⟨?_, leads⟩
  have all := (preparing.trans storing).note
  simpa [preparing.working] using all _

/-- The path of the report below an output directory. -/
def reportPath (output : FilePath) : FilePath := output.append ⟨"", [reportName]⟩

/-- Saving a report writes it alone. -/
theorem storeReport_writes {diagnostics : Diagnostics} {output path : FilePath}
    {session after : Session} (wellFormed : session.files.WellFormed)
    (ran : storeReport diagnostics output session = (.ok path, after)) :
    session.Writes [(locate session.working (reportPath output),
      Text.Utf8.encode (Report.render diagnostics))] after ∧
    after.files.LeadsToFile after.working (reportPath output) := by
  obtain ⟨_, prepared, made, ran⟩ := bind_eq_ok ran
  obtain ⟨_, above, madeAbove, ran⟩ := bind_eq_ok ran
  obtain ⟨_, stored, put, ran⟩ := bind_eq_ok ran
  rw [bind_of_ok (Action.log_run _ _ _ stored), pure_run, ended_inj] at ran
  obtain ⟨_, rfl⟩ := ran
  have preparing := Action.prepareDirectory_writes wellFormed made
  have preparingAbove := Action.prepareDirectory_writes preparing.wellFormed madeAbove
  obtain ⟨storing, leads⟩ := Action.storeFile_writes preparingAbove.wellFormed put
  refine ⟨?_, leads⟩
  have all := ((preparing.trans preparingAbove).trans storing).note
  simpa [reportPath, preparing.working, preparingAbove.working] using all _

end Artifacts

end Multitarget
