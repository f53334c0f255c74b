import Multitarget.Proofs.Executor.Persistence
import Multitarget.Proofs.Executor.Saving
import Multitarget.Proofs.Session.Builds

/-!
# The tree after saving

Saving class files that succeeds leaves a tree that is known location by location. Where
an artifact's path leads there is the file with the content of the last artifact of that
path. On the way to the output directory and to the artifacts there are directories, new
ones where nothing was. All else is as before.
-/

namespace Multitarget.Artifacts

open FileTree (locate LiesOn)

variable {output : FilePath} {session after : Session}

/-- Whether an artifact of some entries is written at a location. -/
def IsTarget (working : Location) (output : FilePath) (entries : List (String × Text.Bytes))
    (location : Location) : Prop :=
  ∃ entry ∈ entries, ∃ path, resolve output entry.1 = some path ∧ location = locate working path

/-- Whether a location is on the way to an artifact of some entries. -/
def LeadsToTarget (working : Location) (output : FilePath)
    (entries : List (String × Text.Bytes)) (location : Location) : Prop :=
  ∃ entry ∈ entries, ∃ path, resolve output entry.1 = some path ∧
    LiesOn working path.parent location

instance (working : Location) (output : FilePath) (entries : List (String × Text.Bytes))
    (location : Location) : Decidable (IsTarget working output entries location) :=
  decidable_of_iff
    (∃ entry ∈ entries, ∃ path ∈ resolve output entry.1, location = locate working path)
    Iff.rfl

theorem leadsToTarget_cons {working location : Location} {entry : String × Text.Bytes}
    {rest : List (String × Text.Bytes)} {path : FilePath}
    (resolved : resolve output entry.1 = some path) :
    LeadsToTarget working output (entry :: rest) location ↔
      LiesOn working path.parent location ∨ LeadsToTarget working output rest location := by
  simp [LeadsToTarget, resolved]

/-- Writing one artifact makes the directories that lead to it and writes its file. -/
theorem storeOne_builds {entry : String × Text.Bytes} {path : FilePath}
    (wellFormed : session.files.WellFormed)
    (ran : storeOne output entry session = (.ok path, after)) :
    resolve output entry.1 = some path ∧
      session.Builds (LiesOn session.working path.parent)
        [(locate session.working path, entry.2)] after := by
  unfold storeOne at ran
  cases resolved : resolve output entry.1 with
  | none => simp [resolved, Action.fail] at ran
  | some place =>
      rw [resolved] at ran
      obtain ⟨_, prepared, made, ran⟩ := bind_eq_ok ran
      obtain ⟨_, stored, put, ran⟩ := bind_eq_ok ran
      rw [pure_run, ended_inj, Except.ok.injEq] at ran
      obtain ⟨rfl, rfl⟩ := ran
      have preparing := Action.prepareDirectory_builds wellFormed made
      have storing := Action.storeFile_builds preparing.wellFormed put
      rw [preparing.working] at storing
      exact ⟨rfl, (preparing.trans storing).of_iff fun _ => by simp⟩

/-- Writing artifacts makes the directories that lead to them and writes their files, and gives
their paths in order. -/
theorem storeAll_builds {entries : List (String × Text.Bytes)} {written : List FilePath}
    (wellFormed : session.files.WellFormed)
    (ran : storeAll output entries session = (.ok written, after)) :
    entries.map (fun entry => resolve output entry.1) = written.map some ∧
      session.Builds (LeadsToTarget session.working output entries)
        (targets session.working output entries) after := by
  -- Each artifact is built into the tree that those before it left.
  induction entries generalizing session written with
  | nil =>
      rw [storeAll, pure_run, ended_inj, Except.ok.injEq] at ran
      obtain ⟨rfl, rfl⟩ := ran
      exact ⟨rfl, (Session.Builds.refl wellFormed).of_iff fun _ => by simp [LeadsToTarget]⟩
  | cons entry rest ih =>
      rw [storeAll_cons] at ran
      obtain ⟨path, between, one, ran⟩ := bind_eq_ok ran
      obtain ⟨others, last, continued, ran⟩ := bind_eq_ok ran
      rw [pure_run, ended_inj, Except.ok.injEq] at ran
      obtain ⟨rfl, rfl⟩ := ran
      obtain ⟨resolved, first⟩ := storeOne_builds wellFormed one
      obtain ⟨paths, later⟩ := ih first.wellFormed continued
      rw [first.working] at later
      refine ⟨by simp [resolved, paths], ?_⟩
      have all := (first.trans later).of_iff fun _ => leadsToTarget_cons resolved
      simpa [targets, resolved] using all

/-- Saving artifacts makes the output directory and those that lead to the artifacts, and writes
their files, and gives their paths in order. -/
theorem storeBelow_builds {entries : List (String × Text.Bytes)} {written : List FilePath}
    (wellFormed : session.files.WellFormed)
    (ran : storeBelow output entries session = (.ok written, after)) :
    entries.map (fun entry => resolve output entry.1) = written.map some ∧
      session.Builds (fun location => LiesOn session.working output location ∨
          LeadsToTarget session.working output entries location)
        (targets session.working output entries) after := by
  obtain ⟨_, prepared, made, wrote⟩ := bind_eq_ok ran
  have preparing := Action.prepareDirectory_builds wellFormed made
  obtain ⟨resolved, storing⟩ := storeAll_builds preparing.wellFormed wrote
  rw [preparing.working] at storing
  exact ⟨resolved, preparing.trans storing⟩

/-- Saving class files builds what saving artifacts does. -/
theorem storeClasses_builds {files : Keyed Text.Bytes} {written : List FilePath}
    (wellFormed : session.files.WellFormed)
    (ran : storeClasses files output session = (.ok written, after)) :
    files.entries.map (fun entry => resolve output entry.1) = written.map some ∧
      session.Builds (fun location => LiesOn session.working output location ∨
          LeadsToTarget session.working output files.entries location)
        (targets session.working output files.entries) after := by
  rw [storeClasses_eq] at ran
  obtain ⟨paths, stored, saved, ran⟩ := bind_eq_ok ran
  rw [bind_of_ok (Action.log_run _ _ _ stored), pure_run, ended_inj, Except.ok.injEq] at ran
  obtain ⟨rfl, rfl⟩ := ran
  obtain ⟨resolved, builds⟩ := storeBelow_builds wellFormed saved
  exact ⟨resolved, builds.note _⟩

/-- The tree after class files were saved: each artifact's location has the last content for its
path; any other location that leads to the output directory or to an artifact and was free has a
directory; every other location has what it had, and no entry is gone. -/
theorem storeClasses_tree (files : Keyed Text.Bytes) (output : FilePath) {written : List FilePath}
    (wellFormed : session.files.WellFormed)
    (ran : storeClasses files output session = (.ok written, after)) :
    (∀ entry ∈ files.entries, ∃ path content, resolve output entry.1 = some path ∧
      lastContent output files.entries path = some content ∧
      after.files.get? (locate session.working path) = some (.file content)) ∧
    (∀ location, ¬ IsTarget session.working output files.entries location →
      session.files.get? location = none →
      (LiesOn session.working output location ∨
        LeadsToTarget session.working output files.entries location) →
      after.files.get? location = some .directory) ∧
    (∀ location, ¬ IsTarget session.working output files.entries location →
      (session.files.get? location = none →
        ¬ LiesOn session.working output location ∧
        ¬ LeadsToTarget session.working output files.entries location) →
      after.files.get? location = session.files.get? location) ∧
    session.files.Grows after.files := by
  obtain ⟨paths, builds⟩ := storeClasses_builds wellFormed ran
  have unwritten : ∀ {location}, ¬ IsTarget session.working output files.entries location →
      lastWrite (targets session.working output files.entries) location = none := by
    intro location apart
    apply lastWrite_targets_elsewhere
    intro entry present path resolved same
    exact apart ⟨entry, present, path, resolved, same⟩
  refine ⟨?_, ?_, ?_, builds.grows⟩
  · intro entry present
    have listed : resolve output entry.1 ∈ written.map some :=
      paths ▸ List.mem_map_of_mem present
    obtain ⟨path, _, resolved⟩ := List.mem_map.mp listed
    obtain ⟨content, last⟩ := exists_lastContent present resolved.symm
    refine ⟨path, content, resolved.symm, last, builds.written ?_⟩
    rw [lastWrite_targets resolved.symm, last]
  · intro location apart missing needed
    exact builds.made (unwritten apart) needed missing
  · intro location apart spared
    apply builds.kept (unwritten apart)
    intro needed missing
    exact needed.elim (spared missing).1 (spared missing).2

/-- Three artifacts, the first and the last of one path. -/
def overlapping : Keyed Text.Bytes :=
  .ofList [("A.class", [1]), ("pkg\\B.class", [2]), ("./A.class", [3])]

/-- Of two artifacts of one path the last one is in the tree, with all directories that were
missing, and what was there before still is. -/
theorem storeClasses_tree_overlapping :
    ∃ written after, Session.fresh.files.WellFormed ∧
      storeClasses overlapping ⟨"", ["out", "classes"]⟩ Session.fresh = (.ok written, after) ∧
      after.files.get? ["out", "classes", "A.class"] = some (.file [3]) ∧
      after.files.get? ["out"] = some .directory ∧
      after.files.get? ["out", "classes", "pkg"] = some .directory ∧
      after.files.get? ["tmp"] = some .directory := by
  have succeeds : (storeClasses overlapping ⟨"", ["out", "classes"]⟩
      Session.fresh).1.toOption.isSome = true := by decide +kernel
  rcases ran : storeClasses overlapping ⟨"", ["out", "classes"]⟩ Session.fresh with
    ⟨fault | written, after⟩
  · simp [ran, Except.toOption] at succeeds
  · obtain ⟨stored, made, kept, -⟩ :=
      storeClasses_tree overlapping ⟨"", ["out", "classes"]⟩ Executor.wellFormed_fresh ran
    obtain ⟨path, content, resolved, last, held⟩ := stored ("A.class", [1]) (by decide)
    obtain rfl : path = ⟨"", ["out", "classes", "A.class"]⟩ :=
      Option.some.inj (resolved.symm.trans (by decide))
    obtain rfl : content = [3] := Option.some.inj (last.symm.trans (by decide))
    refine ⟨written, after, Executor.wellFormed_fresh, rfl, held, ?_, ?_, ?_⟩
    · exact made ["out"] (by decide) (by decide) (.inl ⟨["out"], by decide, by decide⟩)
    · refine made ["out", "classes", "pkg"] (by decide) (by decide) (.inr ?_)
      exact ⟨("pkg\\B.class", [2]), by decide, ⟨"", ["out", "classes", "pkg", "B.class"]⟩,
        by decide, ["out", "classes", "pkg"], by decide, by decide⟩
    · exact kept ["tmp"] (by decide) (fun missing => absurd missing (by decide))

end Multitarget.Artifacts
