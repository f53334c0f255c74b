import Multitarget.Proofs.Executor.Persistence

/-!
# What saving may touch

Saving class files stays inside the output directory, whatever the artifacts are called
and however it ends: it makes directories that lead to the output directory, it makes and
replaces entries below it, and it leaves every other entry as it was.
-/

namespace Multitarget

namespace FileTree

/-- Whether a location lies below another one, and is not that one. -/
def LiesBelow (outer location : Location) : Prop :=
  ∃ below, below ≠ [] ∧ location = outer ++ below

/-- Between two trees nothing changed that is not below a path, except that directories which lead
to the path were made. -/
def ConfinedTo (working : Location) (path : FilePath) (before after : FileTree) : Prop :=
  ∀ location, ¬ LiesBelow (locate working path) location →
    after.get? location = before.get? location ∨
      LiesOn working path location ∧ before.get? location = none ∧
        after.get? location = some .directory

namespace ConfinedTo

variable {working : Location} {path : FilePath} {first second third : FileTree}

theorem refl (working : Location) (path : FilePath) (tree : FileTree) :
    ConfinedTo working path tree tree :=
  fun _ _ => .inl rfl

theorem trans (former : ConfinedTo working path first second)
    (latter : ConfinedTo working path second third) : ConfinedTo working path first third := by
  intro location outside
  rcases former location outside with same | ⟨leading, missing, made⟩ <;>
    rcases latter location outside with later | ⟨leadingLater, missingLater, madeLater⟩
  · exact .inl (later.trans same)
  · exact .inr ⟨leadingLater, same ▸ missingLater, madeLater⟩
  · exact .inr ⟨leading, missing, later.trans made⟩
  · simp [made] at missingLater

end ConfinedTo

theorem LiesOn.of_dropLast {working location : Location} {path : FilePath}
    (lies : LiesOn working path.parent location) : LiesOn working path location := by
  obtain ⟨lead, leading, there⟩ := lies
  exact ⟨lead, leading.trans (List.dropLast_prefix path.parts), there⟩

/-- What leads to a place straight below a path leads to the path or lies below it. -/
theorem LiesOn.of_append {working location : Location} {path : FilePath} {below : List String}
    (downwards : ".." ∉ below) (lies : LiesOn working ⟨path.root, path.parts ++ below⟩ location) :
    LiesOn working path location ∨ LiesBelow (locate working path) location := by
  obtain ⟨lead, leading, rfl⟩ := lies
  rcases List.prefix_or_prefix_of_prefix leading (List.prefix_append path.parts below) with
    shorter | ⟨rest, rfl⟩
  · exact .inl ⟨lead, shorter, rfl⟩
  · have leadingBelow : rest <+: below := (List.prefix_append_right_inj path.parts).mp leading
    have straight : ".." ∉ rest := fun up => downwards (leadingBelow.subset up)
    rw [Artifacts.locate_below working path straight]
    by_cases here : rest = []
    · refine .inl ⟨path.parts, List.prefix_rfl, ?_⟩
      simp [here]
    · exact .inr ⟨rest, here, rfl⟩

/-- New directories on the way to a place straight below a path are confined to the path. -/
theorem GainsDirectories.confinedTo {working : Location} {path : FilePath} {below : List String}
    {before after : FileTree} (downwards : ".." ∉ below)
    (gains : GainsDirectories (LiesOn working ⟨path.root, path.parts ++ below⟩) before after) :
    ConfinedTo working path before after := by
  intro location outside
  rcases gains location with same | ⟨lies, missing, made⟩
  · exact .inl same
  · rcases lies.of_append downwards with leading | inside
    · exact .inr ⟨leading, missing, made⟩
    · exact absurd inside outside

end FileTree

namespace Session

open FileTree (ConfinedTo)

/-- Between two sessions all that happened to the files is confined to a path. -/
structure StaysIn (path : FilePath) (before after : Session) : Prop where
  working : after.working = before.working
  wellFormed : after.files.WellFormed
  grows : before.files.Grows after.files
  confined : ConfinedTo before.working path before.files after.files

namespace StaysIn

variable {path : FilePath} {before between after : Session}

theorem refl (wellFormed : before.files.WellFormed) : before.StaysIn path before where
  working := rfl
  wellFormed := wellFormed
  grows := .refl before.files
  confined := .refl before.working path before.files

theorem trans (former : before.StaysIn path between) (latter : between.StaysIn path after) :
    before.StaysIn path after where
  working := latter.working.trans former.working
  wellFormed := latter.wellFormed
  grows := former.grows.trans latter.grows
  confined := former.confined.trans (former.working ▸ latter.confined)

end StaysIn

/-- Whether a path leads to a directory. -/
def HasDirectory (session : Session) (path : FilePath) : Prop :=
  ∃ place, session.files.resolve session.working path = .present place .directory

theorem HasDirectory.kept {path : FilePath} {before after : Session}
    (there : before.HasDirectory path) (stays : before.StaysIn path after) :
    after.HasDirectory path := by
  obtain ⟨place, resolved⟩ := there
  obtain ⟨later, still, kind⟩ := stays.grows.resolve resolved
  obtain rfl := later.eq_directory_of_isDirectory kind
  exact ⟨place, stays.working ▸ still⟩

end Session

namespace Artifacts

open FileTree (locate LiesOn LiesBelow)

variable {output : FilePath} {below : List String} {session : Session}

/-- Making sure of directories that lead to a place below the output directory stays in it. -/
theorem prepareDirectory_staysIn {path : FilePath} (wellFormed : session.files.WellFormed)
    (downwards : ".." ∉ below)
    (leading : ∀ location, LiesOn session.working path location →
      LiesOn session.working ⟨output.root, output.parts ++ below⟩ location) :
    session.StaysIn output (Action.prepareDirectory path session).2 := by
  rw [Action.prepareDirectory_run]
  obtain ⟨stays, gains⟩ := FileTree.ensureDirectories_gains wellFormed session.working path
  exact ⟨rfl, stays, gains.grows, (gains.mono leading).confinedTo downwards⟩

/-- Writing a file below the output directory stays in it; the output directory itself is no file
to be written. -/
theorem storeFile_staysIn (wellFormed : session.files.WellFormed) (downwards : ".." ∉ below)
    (there : session.HasDirectory output) (content : Text.Bytes) :
    session.StaysIn output
      (Action.storeFile ⟨output.root, output.parts ++ below⟩ content session).2 := by
  rw [Action.storeFile_run]
  rcases stored : FileTree.writeFile session.working ⟨output.root, output.parts ++ below⟩ content
      session.files with ⟨fault | done, files⟩
  · rcases FileTree.writeFile_run session.working ⟨output.root, output.parts ++ below⟩ content
        session.files with ⟨other, failed⟩ | ⟨_, place, _, made⟩
    · obtain rfl : session.files = files := congrArg Prod.snd (failed.symm.trans stored)
      exact ⟨rfl, wellFormed, .refl _, .refl _ _ _⟩
    · simp [made] at stored
  · have written := FileTree.written_of_writeFile wellFormed stored
    refine ⟨rfl, written.wellFormed, written.grows, fun location outside => .inl ?_⟩
    apply written.elsewhere
    rintro rfl
    apply outside
    rw [locate_below session.working output downwards]
    refine ⟨below, ?_, rfl⟩
    rintro rfl
    -- The path would be the output directory, which still is one after the write.
    obtain ⟨place, resolved⟩ := there
    obtain ⟨later, still, kind⟩ := written.grows.resolve resolved
    obtain rfl := later.eq_directory_of_isDirectory kind
    have file := written.resolved
    rw [List.append_nil, still] at file
    simp at file

/-- Writing artifacts stays in the output directory, however it ends. -/
theorem storeAll_staysIn (entries : List (String × Text.Bytes))
    (wellFormed : session.files.WellFormed) (there : session.HasDirectory output) :
    session.StaysIn output (storeAll output entries session).2 := by
  -- An artifact that is refused ends the run; what those before it wrote stays in the directory.
  induction entries generalizing session with
  | nil => exact .refl wellFormed
  | cons entry rest ih =>
      obtain ⟨artifact, content⟩ := entry
      simp only [storeAll]
      cases resolved : resolve output artifact with
      | none => exact .refl wellFormed
      | some path =>
          obtain ⟨below, downwards, rfl⟩ := parts_of_resolve resolved
          refine bind_related .trans
            (prepareDirectory_staysIn wellFormed downwards fun _ => LiesOn.of_dropLast)
            fun _ prepared _ preparing => ?_
          have thereStill := there.kept preparing
          refine bind_related .trans
            (storeFile_staysIn preparing.wellFormed downwards thereStill content)
            fun _ stored _ storing => ?_
          exact bind_related .trans (ih storing.wellFormed (thereStill.kept storing))
            fun _ last _ others => .refl others.wellFormed

/-- However saving class files ends, it changes nothing but entries below the output directory, and
makes no more than directories besides that lead there. -/
theorem storeClasses_confinedTo (files : Keyed Text.Bytes) (output : FilePath)
    (wellFormed : session.files.WellFormed) :
    FileTree.ConfinedTo session.working output session.files
      (storeClasses files output session).2.files := by
  have straight : ".." ∉ ([] : List String) := by simp
  have stays : session.StaysIn output (storeClasses files output session).2 := by
    refine bind_related .trans
      (prepareDirectory_staysIn wellFormed straight fun _ lies => by simpa using lies)
      fun _ prepared made preparing => ?_
    have there : prepared.HasDirectory output := by
      rw [Action.prepareDirectory_run, ended_inj] at made
      obtain ⟨succeeded, rfl⟩ := made
      rcases ensured : FileTree.ensureDirectories session.working output session.files with
        ⟨fault | done, tree⟩
      · simp [ensured] at succeeded
      · exact FileTree.resolve_of_ensureDirectories wellFormed ensured
    refine bind_related .trans (storeAll_staysIn files.entries preparing.wellFormed there)
      fun _ stored _ storing => ?_
    rw [bind_of_ok (Action.log_run _ _ _ stored), pure_run]
    exact ⟨rfl, storing.wellFormed, .refl _, .refl _ _ _⟩
  exact stays.confined

/-- An artifact that would leave the output directory is refused, and changes nothing outside. -/
theorem escaping_artifact_refused :
    Session.fresh.files.WellFormed ∧
    (match (storeClasses (.ofList [("A.class", [1]), ("pkg\\..\\..\\B.class", [2])]) ⟨"", ["out"]⟩
        Session.fresh).1 with
      | .error fault => fault.failure?
      | .ok _ => none) =
      some (.persistence "pkg\\..\\..\\B.class" "path must be relative to the output directory") ∧
    FileTree.ConfinedTo [] ⟨"", ["out"]⟩ Session.fresh.files
      (storeClasses (.ofList [("A.class", [1]), ("pkg\\..\\..\\B.class", [2])]) ⟨"", ["out"]⟩
        Session.fresh).2.files :=
  ⟨Executor.wellFormed_fresh, by decide +kernel,
    storeClasses_confinedTo _ _ Executor.wellFormed_fresh⟩

end Artifacts

end Multitarget
