import Multitarget.Proofs.Executor.Collision

/-!
# Saves that are refused

An artifact's path is looked at when its turn comes, not before anything is written. So a save
that is refused has saved the artifacts that stand before the first refused one, exactly as
a save of these alone, and nothing of those behind it.
-/

namespace Multitarget

namespace Action

variable {session after : Session} {path : FilePath} {content : Text.Bytes} {failure : Failure}

/-- What the files are at fault for is no failure of the library. -/
theorem mapError_file_ne_failure {α : Type} (ending : Except FileFault α) (failure : Failure) :
    ending.mapError Fault.file ≠ .error (.failure failure) := by
  cases ending <;> simp

theorem prepareDirectory_ne_failure :
    prepareDirectory path session ≠ (.error (.failure failure), after) := by
  rw [prepareDirectory_run]
  intro same
  exact mapError_file_ne_failure _ _ (ended_inj.mp same).1

theorem storeFile_ne_failure :
    storeFile path content session ≠ (.error (.failure failure), after) := by
  rw [storeFile_run]
  intro same
  exact mapError_file_ne_failure _ _ (ended_inj.mp same).1

end Action

namespace Artifacts

open FileTree (locate LiesOn)

variable {output : FilePath} {session after : Session} {failure : Failure}

/-! ## Refused paths -/

/-- Whether an artifact's path is refused: it is empty, absolute or leads upwards somewhere. -/
def IsRefused (artifact : String) : Prop :=
  artifact = "" ∨ (FilePath.ofText (withSlashes artifact)).isAbsolute = true ∨
    ".." ∈ partsOf artifact

instance (artifact : String) : Decidable (IsRefused artifact) :=
  inferInstanceAs (Decidable (_ ∨ _ ∨ _))

/-- What a save fails with at a refused path. -/
def refusal (artifact : String) : Failure :=
  .persistence artifact "path must be relative to the output directory"

theorem resolve_eq_none_iff {artifact : String} :
    resolve output artifact = none ↔ IsRefused artifact := by
  simp only [resolve, ite_eq_left_iff, reduceCtorEq, imp_false, Classical.not_not, IsRefused,
    partsOf, List.contains_iff_mem]

/-- Writing one artifact is refused for its path alone, before anything is done. -/
theorem storeOne_failure_iff {entry : String × Text.Bytes} :
    storeOne output entry session = (.error (.failure failure), after) ↔
      IsRefused entry.1 ∧ failure = refusal entry.1 ∧ after = session := by
  cases resolved : resolve output entry.1 with
  | none =>
      have refused : IsRefused entry.1 := resolve_eq_none_iff.mp resolved
      simp [storeOne, resolved, Action.fail, refused, refusal, eq_comm]
  | some path =>
      have accepted : ¬ IsRefused entry.1 := fun refused => by
        simp [resolve_eq_none_iff.mpr refused] at resolved
      simp only [accepted, false_and, iff_false, storeOne, resolved]
      intro ran
      rcases bind_eq_error ran with made | ⟨_, prepared, made, putting⟩
      · exact Action.prepareDirectory_ne_failure made
      · rcases bind_eq_error putting with put | ⟨_, _, _, returned⟩
        · exact Action.storeFile_ne_failure put
        · simp at returned

/-! ## Saving up to a refused path -/

/-- An artifact that cannot be written ends the writing of those around it. -/
theorem storeAll_of_fault {done rest : List (String × Text.Bytes)} {entry : String × Text.Bytes}
    {written : List FilePath} {between : Session} {fault : Fault}
    (wrote : storeAll output done session = (.ok written, between))
    (failed : storeOne output entry between = (.error fault, after)) :
    storeAll output (done ++ entry :: rest) session = (.error fault, after) := by
  induction done generalizing session written with
  | nil =>
      rw [storeAll, pure_run, ended_inj] at wrote
      obtain ⟨_, rfl⟩ := wrote
      rw [List.nil_append, storeAll_cons, bind_of_error failed]
  | cons first done ih =>
      rw [storeAll_cons] at wrote
      obtain ⟨path, stored, one, wrote⟩ := bind_eq_ok wrote
      obtain ⟨others, last, continued, wrote⟩ := bind_eq_ok wrote
      rw [pure_run, ended_inj] at wrote
      obtain ⟨_, rfl⟩ := wrote
      rw [List.cons_append, storeAll_cons, bind_of_ok one, bind_of_error (ih continued)]

/-- Writing artifacts is refused exactly if one of them is, and those before it can be written;
nothing is done but writing these. -/
theorem storeAll_failure_iff {entries : List (String × Text.Bytes)} :
    storeAll output entries session = (.error (.failure failure), after) ↔
      ∃ done entry rest written, entries = done ++ entry :: rest ∧ IsRefused entry.1 ∧
        failure = refusal entry.1 ∧ storeAll output done session = (.ok written, after) := by
  constructor
  · intro ran
    obtain ⟨done, entry, rest, written, between, split, wrote, failed⟩ := storeAll_fault ran
    obtain ⟨refused, told, rfl⟩ := storeOne_failure_iff.mp failed
    exact ⟨done, entry, rest, written, split, refused, told, wrote⟩
  · rintro ⟨done, entry, rest, written, rfl, refused, told, wrote⟩
    exact storeAll_of_fault wrote (storeOne_failure_iff.mpr ⟨refused, told, rfl⟩)

/-- Saving artifacts below a directory is refused at the first that is, and has then saved those
before it and nothing else. -/
theorem storeBelow_failure_iff {entries : List (String × Text.Bytes)} :
    storeBelow output entries session = (.error (.failure failure), after) ↔
      ∃ done entry rest written, entries = done ++ entry :: rest ∧ IsRefused entry.1 ∧
        failure = refusal entry.1 ∧ storeBelow output done session = (.ok written, after) := by
  unfold storeBelow
  constructor
  · intro ran
    rcases bind_eq_error ran with made | ⟨_, prepared, made, storing⟩
    · exact absurd made Action.prepareDirectory_ne_failure
    · obtain ⟨done, entry, rest, written, split, refused, told, wrote⟩ :=
        storeAll_failure_iff.mp storing
      exact ⟨done, entry, rest, written, split, refused, told, by rw [bind_of_ok made, wrote]⟩
  · rintro ⟨done, entry, rest, written, split, refused, told, ran⟩
    obtain ⟨_, prepared, made, wrote⟩ := bind_eq_ok ran
    rw [bind_of_ok made]
    exact storeAll_failure_iff.mpr ⟨done, entry, rest, written, split, refused, told, wrote⟩

/-- Class files are refused exactly if artifacts below their directory are. -/
theorem storeClasses_failure_iff {files : Keyed Text.Bytes} :
    storeClasses files output session = (.error (.failure failure), after) ↔
      storeBelow output files.entries session = (.error (.failure failure), after) := by
  rw [storeClasses_eq]
  constructor
  · intro ran
    rcases bind_eq_error ran with stored | ⟨_, _, _, logged⟩
    · exact stored
    · rw [bind_of_ok (Action.log_run _ _ _ _)] at logged
      simp at logged
  · intro ran
    exact bind_of_error ran

/-! ## What a refused save leaves -/

/-- No artifact that was saved is refused. -/
theorem not_isRefused_of_storeBelow {entries : List (String × Text.Bytes)}
    {written : List FilePath} (wellFormed : session.files.WellFormed)
    (ran : storeBelow output entries session = (.ok written, after)) :
    ∀ entry ∈ entries, ¬ IsRefused entry.1 := by
  intro entry present refused
  obtain ⟨path, resolved, _⟩ := (storeBelow_writes wellFormed ran).2 entry present
  simp [resolve_eq_none_iff.mpr refused] at resolved

/-- Artifacts that were saved made no directory but those that lead to the output directory or to
one of them. -/
theorem storeBelow_directories {entries : List (String × Text.Bytes)} {written : List FilePath}
    (wellFormed : session.files.WellFormed)
    (ran : storeBelow output entries session = (.ok written, after)) {location : Location}
    (there : after.files.get? location = some .directory)
    (missing : session.files.get? location ≠ some .directory) :
    LiesOn session.working output location ∨
      LeadsToTarget session.working output entries location := by
  have builds := (storeBelow_builds wellFormed ran).2
  -- What was written there would be a file.
  have unwritten : lastWrite (targets session.working output entries) location = none := by
    cases last : lastWrite (targets session.working output entries) location with
    | none => rfl
    | some content => simp [builds.written last] at there
  refine Classical.byContradiction fun spared => ?_
  rw [builds.kept unwritten fun needed => absurd needed spared] at there
  exact missing there

/-- A save that is refused names the first artifact whose path is refused. It leaves what saving
the artifacts before it leaves: each of these can be read, with the last content for its path,
every other file is as before, and the only new directories are those that lead to the output
directory or to one of these artifacts. -/
theorem storeClasses_refused (files : Keyed Text.Bytes) (output : FilePath)
    (wellFormed : session.files.WellFormed)
    (ran : storeClasses files output session = (.error (.failure failure), after)) :
    ∃ (done : Keyed Text.Bytes) (artifact : String) (content : Text.Bytes)
      (rest : List (String × Text.Bytes)),
      files.entries = done.entries ++ (artifact, content) :: rest ∧
      IsRefused artifact ∧ (∀ named ∈ done.keys, ¬ IsRefused named) ∧
      failure = refusal artifact ∧
      Saved output done session after ∧
      (∀ location, after.files.get? location = some .directory →
        session.files.get? location ≠ some .directory →
        LiesOn session.working output location ∨
          LeadsToTarget session.working output done.entries location) ∧
      session.files.Grows after.files := by
  obtain ⟨done, ⟨artifact, content⟩, rest, written, split, refused, told, saved⟩ :=
    storeBelow_failure_iff.mp (storeClasses_failure_iff.mp ran)
  have distinct : (done.map Prod.fst).Nodup := by
    have all := files.nodup
    rw [split, List.map_append] at all
    exact (List.nodup_append.mp all).1
  obtain ⟨writes, leads⟩ := storeBelow_writes wellFormed saved
  refine ⟨⟨done, distinct⟩, artifact, content, rest, split, refused, ?_, told, ?_, ?_, writes.grows⟩
  · intro named listed
    obtain ⟨entry, present, rfl⟩ := List.mem_map.mp listed
    exact not_isRefused_of_storeBelow wellFormed saved entry present
  · exact saved_of_writes writes leads
  · intro location there missing
    exact storeBelow_directories wellFormed saved there missing

/-- The artifacts before the first refused one are told by the artifacts. -/
theorem eq_takeWhile_of_split {entries done rest : List (String × Text.Bytes)}
    {entry : String × Text.Bytes} (split : entries = done ++ entry :: rest)
    (refused : IsRefused entry.1) (accepted : ∀ named ∈ done.map Prod.fst, ¬ IsRefused named) :
    done = entries.takeWhile fun entry => ¬ IsRefused entry.1 := by
  have passed : ∀ entry ∈ done, decide (¬ IsRefused entry.1) = true := by
    intro entry present
    exact decide_eq_true (accepted entry.1 (List.mem_map_of_mem present))
  rw [split, List.takeWhile_append_of_pos passed,
    List.takeWhile_cons_of_neg (by simpa using refused), List.append_nil]

/-- Three artifacts, the second of which leads out of the output directory. -/
def escaping : Keyed Text.Bytes :=
  .ofList [("app/A.class", [1]), ("../B.class", [2]), ("C.class", [3])]

/-- Saving them is refused, in the session that saving the first alone leaves. -/
theorem escaping_run :
    storeClasses escaping ⟨"", ["out", "classes"]⟩ Session.fresh =
      (.error (.failure (refusal "../B.class")),
        (storeBelow ⟨"", ["out", "classes"]⟩ [("app/A.class", [1])] Session.fresh).2) := by
  have succeeds : (storeBelow ⟨"", ["out", "classes"]⟩ [("app/A.class", [1])]
      Session.fresh).1.toOption.isSome = true := by decide +kernel
  rcases ran : storeBelow ⟨"", ["out", "classes"]⟩ [("app/A.class", [1])] Session.fresh with
    ⟨fault | written, after⟩
  · simp [ran, Except.toOption] at succeeds
  · refine storeClasses_failure_iff.mpr (storeBelow_failure_iff.mpr ?_)
    exact ⟨_, ("../B.class", [2]), [("C.class", [3])], written, rfl, by decide +kernel, rfl, ran⟩

/-- The refused artifact is named; the one before it can be read, and the one behind it is not
there. -/
theorem storeClasses_refused_escaping :
    ∃ failure after, Session.fresh.files.WellFormed ∧
      storeClasses escaping ⟨"", ["out", "classes"]⟩ Session.fresh =
        (.error (.failure failure), after) ∧
      failure = refusal "../B.class" ∧
      Action.readFile ⟨"", ["out", "classes", "app", "A.class"]⟩ after = (.ok [1], after) ∧
      after.files.contentAt ["out", "classes", "C.class"] = none := by
  obtain ⟨done, artifact, content, rest, split, refused, accepted, -, saved, -, -⟩ :=
    storeClasses_refused escaping ⟨"", ["out", "classes"]⟩ Executor.wellFormed_fresh escaping_run
  have before : done.entries = [("app/A.class", [1])] :=
    (eq_takeWhile_of_split split refused accepted).trans (by decide +kernel)
  refine ⟨_, _, Executor.wellFormed_fresh, escaping_run, rfl, ?_, ?_⟩
  · obtain ⟨path, content, resolved, last, read⟩ :=
      saved.held "app/A.class" (by simp [Keyed.keys, before])
    obtain rfl : path = ⟨"", ["out", "classes", "app", "A.class"]⟩ :=
      Option.some.inj (resolved.symm.trans (by decide))
    rw [before] at last
    obtain rfl : content = [1] := Option.some.inj (last.symm.trans (by decide))
    exact read
  · rw [saved.elsewhere]
    · decide
    · intro artifact named path resolved
      obtain rfl : artifact = "app/A.class" := by simpa [Keyed.keys, before] using named
      obtain rfl : path = ⟨"", ["out", "classes", "app", "A.class"]⟩ :=
        Option.some.inj (resolved.symm.trans (by decide))
      decide

/-- A refused save can leave a file that was not there, and directories besides the output
directory. -/
theorem storeClasses_partly_saved :
    ∃ failure after, Session.fresh.files.WellFormed ∧
      (∃ artifact ∈ escaping.keys, IsRefused artifact) ∧
      storeClasses escaping ⟨"", ["out", "classes"]⟩ Session.fresh =
        (.error (.failure failure), after) ∧
      Session.fresh.files.get? ["out", "classes", "app", "A.class"] = none ∧
      after.files.get? ["out", "classes", "app", "A.class"] = some (.file [1]) ∧
      Session.fresh.files.get? ["out", "classes", "app"] = none ∧
      after.files.get? ["out", "classes", "app"] = some .directory ∧
      Session.fresh.files.get? ["out"] = none ∧
      after.files.get? ["out"] = some .directory := by
  refine ⟨_, _, Executor.wellFormed_fresh, ⟨"../B.class", ?_, ?_⟩, escaping_run, ?_⟩
  · decide
  · decide +kernel
  · decide +kernel

end Artifacts

end Multitarget
