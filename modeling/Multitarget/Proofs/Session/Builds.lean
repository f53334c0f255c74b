import Multitarget.Proofs.Session.Writes

/-!
# Built directories

Making sure of a directory makes all those that lead to it, and nothing else. With the
files that were written this tells the whole tree afterwards: a location has its last
content, or a directory where one was needed and nothing was, or what it had before.
-/

namespace Multitarget

namespace FileTree

/-- All that a path to a directory leads through is a directory. -/
theorem Leads.directory_of_prefix {tree : FileTree} (wellFormed : tree.WellFormed)
    {location place : Location} {node : FileNode} {parts lead : List String}
    (leads : Leads tree location node parts (.present place .directory))
    (found : tree.get? location = some node) (leading : lead <+: parts) :
    tree.get? (lead.foldl descend location) = some .directory := by
  generalize reached : Target.present place .directory = target at leads
  induction leads generalizing lead with
  | here =>
      obtain rfl := List.prefix_nil.mp leading
      simp only [Target.present.injEq] at reached
      rw [← reached.2] at found
      exact found
  | up _ ih =>
      rcases List.prefix_cons_iff.mp leading with rfl | ⟨rest, rfl, further⟩
      · exact found
      · simpa [descend] using ih (wellFormed.dropLast found) further reached
  | down other _ inside _ ih =>
      rcases List.prefix_cons_iff.mp leading with rfl | ⟨rest, rfl, further⟩
      · exact found
      · simpa [descend, other] using ih inside further reached
  | missing => simp at reached

/-- Every place on a path to a directory is a directory. -/
theorem directory_of_liesOn {tree : FileTree} (wellFormed : tree.WellFormed)
    {working place location : Location} {path : FilePath}
    (resolved : tree.resolve working path = .present place .directory)
    (lies : LiesOn working path location) : tree.get? location = some .directory := by
  obtain ⟨_, node, found, leads⟩ := leads_of_resolve resolved rfl
  obtain ⟨lead, leading, rfl⟩ := lies
  exact leads.directory_of_prefix wellFormed found leading

end FileTree

namespace Session

/-- Between two sessions some files were written, directories were made at those of some places
where there was nothing, and all else is as before. -/
structure Builds (places : Location → Prop) (writes : List (Location × Text.Bytes))
    (before after : Session) : Prop extends Writes writes before after where
  made : ∀ {location}, lastWrite writes location = none → places location →
    before.files.get? location = none → after.files.get? location = some .directory
  kept : ∀ {location}, lastWrite writes location = none →
    (places location → before.files.get? location ≠ none) →
    after.files.get? location = before.files.get? location

namespace Builds

variable {places others : Location → Prop} {writes more : List (Location × Text.Bytes)}
  {before between after : Session}

/-- A location has what was written there last. -/
theorem written (builds : Builds places writes before after) {location : Location}
    {content : Text.Bytes} (last : lastWrite writes location = some content) :
    after.files.get? location = some (.file content) := by
  rw [← FileTree.contentAt_eq_some, builds.contentAt, last, Option.some_or]

theorem trans (former : Builds places writes before between)
    (latter : Builds others more between after) :
    Builds (fun location => places location ∨ others location) (writes ++ more) before after where
  toWrites := former.toWrites.trans latter.toWrites
  made {location} unwritten needed missing := by
    rw [lastWrite_append, Option.or_eq_none_iff] at unwritten
    by_cases early : places location
    · have there := former.made unwritten.2 early missing
      rw [latter.kept unwritten.1 fun _ => by simp [there], there]
    · have still := former.kept unwritten.2 fun place => absurd place early
      exact latter.made unwritten.1 (needed.resolve_left early) (still.trans missing)
  kept {location} unwritten present := by
    rw [lastWrite_append, Option.or_eq_none_iff] at unwritten
    have same := former.kept unwritten.2 fun place => present (.inl place)
    rw [← same]
    exact latter.kept unwritten.1 fun place => same ▸ present (.inr place)

theorem of_iff {wider : Location → Prop} (builds : Builds places writes before after)
    (same : ∀ location, wider location ↔ places location) : Builds wider writes before after where
  toWrites := builds.toWrites
  made unwritten needed := builds.made unwritten ((same _).mp needed)
  kept unwritten present := builds.kept unwritten fun place => present ((same _).mpr place)

/-- Where nothing changes nothing is built. -/
theorem refl (wellFormed : before.files.WellFormed) :
    Builds (fun _ => False) [] before before where
  toWrites := .of_passes wellFormed (.refl before)
  made _ needed := needed.elim
  kept _ _ := rfl

theorem note (builds : Builds places writes before after) (events : List Event) :
    Builds places writes before (after.note events) where
  toWrites := builds.toWrites.note events
  made := builds.made
  kept := builds.kept

end Builds

end Session

namespace Action

variable {session after : Session} {path : FilePath} {content : Text.Bytes}

/-- A directory was made sure of in the tree as well. -/
theorem ensured_of_prepareDirectory (ran : prepareDirectory path session = (.ok (), after)) :
    FileTree.ensureDirectories session.working path session.files = (.ok (), after.files) := by
  rw [prepareDirectory_run, ended_inj] at ran
  obtain ⟨succeeded, rfl⟩ := ran
  rcases ensured : FileTree.ensureDirectories session.working path session.files with
    ⟨fault | done, tree⟩
  · simp [ensured] at succeeded
  · rfl

/-- A file was written in the tree as well. -/
theorem written_of_storeFile (ran : storeFile path content session = (.ok (), after)) :
    FileTree.writeFile session.working path content session.files = (.ok (), after.files) := by
  rw [storeFile_run, ended_inj] at ran
  obtain ⟨succeeded, rfl⟩ := ran
  rcases stored : FileTree.writeFile session.working path content session.files with
    ⟨fault | done, tree⟩
  · simp [stored] at succeeded
  · rfl

/-- Making sure of a directory makes all missing directories on its path. -/
theorem prepareDirectory_builds (wellFormed : session.files.WellFormed)
    (ran : prepareDirectory path session = (.ok (), after)) :
    session.Builds (FileTree.LiesOn session.working path) [] after := by
  have writes := prepareDirectory_writes wellFormed ran
  have ensured := ensured_of_prepareDirectory ran
  obtain ⟨place, resolved⟩ := FileTree.resolve_of_ensureDirectories wellFormed ensured
  have gains := (FileTree.ensureDirectories_gains wellFormed session.working path).2
  rw [ensured] at gains
  refine ⟨writes, ?_, ?_⟩
  · intro location _ needed _
    exact FileTree.directory_of_liesOn writes.wellFormed resolved needed
  · intro location _ present
    rcases gains location with same | ⟨lies, missing, _⟩
    · exact same
    · exact absurd missing (present lies)

/-- Writing a file changes the one entry alone. -/
theorem storeFile_builds (wellFormed : session.files.WellFormed)
    (ran : storeFile path content session = (.ok (), after)) :
    session.Builds (fun _ => False) [(FileTree.locate session.working path, content)] after := by
  have stored := FileTree.written_of_writeFile wellFormed (written_of_storeFile ran)
  refine ⟨(storeFile_writes wellFormed ran).1, ?_, ?_⟩
  · intro location _ needed
    exact needed.elim
  · intro location unwritten _
    apply stored.elsewhere
    rintro rfl
    simp [lastWrite_singleton] at unwritten

end Action

end Multitarget
