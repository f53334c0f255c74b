import Multitarget.Files.Access
import Multitarget.Proofs.Files.Tree
import Multitarget.Proofs.Steps

/-!
# What file operations change

Making sure of a directory adds directories where there was nothing, and writing
a file changes the one entry that the path leads to. Both keep a tree well-formed.
-/

namespace Multitarget.FileTree

/-! ## Directories -/

/-- The first tree with directories at some of the places where it has nothing. -/
def GainsDirectories (places : Location → Prop) (before after : FileTree) : Prop :=
  ∀ location, after.get? location = before.get? location ∨
    places location ∧ before.get? location = none ∧ after.get? location = some .directory

namespace GainsDirectories

variable {places : Location → Prop} {first second third : FileTree}

theorem refl (places : Location → Prop) (tree : FileTree) : GainsDirectories places tree tree :=
  fun _ => .inl rfl

theorem trans (former : GainsDirectories places first second)
    (latter : GainsDirectories places second third) : GainsDirectories places first third := by
  intro location
  rcases former location with same | ⟨allowed, missing, made⟩ <;>
    rcases latter location with later | ⟨allowedLater, missingLater, madeLater⟩
  · exact .inl (later.trans same)
  · exact .inr ⟨allowedLater, same ▸ missingLater, madeLater⟩
  · exact .inr ⟨allowed, missing, later.trans made⟩
  · simp [made] at missingLater

theorem mono {wider : Location → Prop} (gains : GainsDirectories places first second)
    (included : ∀ location, places location → wider location) :
    GainsDirectories wider first second :=
  fun location => (gains location).imp_right fun ⟨allowed, rest⟩ => ⟨included _ allowed, rest⟩

theorem grows (gains : GainsDirectories places first second) : first.Grows second := by
  intro location node found
  rcases gains location with same | ⟨_, missing, _⟩
  · exact ⟨node, same.trans found, rfl⟩
  · simp [missing] at found

/-- New directories leave all files as they are. -/
theorem contentAt_eq (gains : GainsDirectories places first second) (location : Location) :
    second.contentAt location = first.contentAt location := by
  rcases gains location with same | ⟨_, missing, made⟩
  · simp [contentAt, same]
  · simp [contentAt, missing, made]

end GainsDirectories

/-- Whether a location is where some leading parts of a path lead. -/
def LiesOn (working : Location) (path : FilePath) (location : Location) : Prop :=
  ∃ lead, lead <+: path.parts ∧ location = locate working ⟨path.root, lead⟩

/-- Making sure of one directory fails, finds it, or makes it. -/
theorem ensureDirectory_run (working : Location) (path : FilePath) (tree : FileTree) :
    (∃ fault, ensureDirectory working path tree = (.error fault, tree)) ∨
    (∃ place, tree.resolve working path = .present place .directory ∧
      ensureDirectory working path tree = (.ok (), tree)) ∨
    ∃ place, tree.resolve working path = .absent place ∧
      ensureDirectory working path tree = (.ok (), tree.put place .directory) := by
  unfold ensureDirectory
  by_cases null : path.hasNull
  · exact .inl ⟨.nullCharacter, by simp [null, bind_run]⟩
  · cases resolved : tree.resolve working path with
    | present place node =>
        cases node with
        | directory => exact .inr (.inl ⟨place, rfl, by simp [null, bind_run, resolved]⟩)
        | file content =>
            exact .inl ⟨.obstacle .exists path.text, by simp [null, bind_run, resolved, block]⟩
    | absent place => exact .inr (.inr ⟨place, rfl, by simp [null, bind_run, resolved]⟩)
    | blocked obstacle =>
        exact .inl ⟨.obstacle obstacle path.text, by simp [null, bind_run, resolved, block]⟩

/-- However it ends, making sure of one directory adds no more than that. -/
theorem ensureDirectory_gains {tree : FileTree} (wellFormed : tree.WellFormed)
    (working : Location) (path : FilePath) :
    (ensureDirectory working path tree).2.WellFormed ∧
      GainsDirectories (LiesOn working path) tree (ensureDirectory working path tree).2 := by
  rcases ensureDirectory_run working path tree with
    ⟨fault, ran⟩ | ⟨place, _, ran⟩ | ⟨place, resolved, ran⟩
  · rw [ran]
    exact ⟨wellFormed, .refl _ tree⟩
  · rw [ran]
    exact ⟨wellFormed, .refl _ tree⟩
  · rw [ran]
    obtain ⟨missing, inside⟩ := holds_of_resolve wellFormed resolved
    refine ⟨wellFormed.put inside (by simp [missing]), fun location => ?_⟩
    have proper : place ≠ [] := fun root => by simp [root] at missing
    by_cases here : location = place
    · subst here
      refine .inr ⟨⟨path.parts, List.prefix_rfl, ?_⟩, missing, by simp [get?_put]⟩
      have leads : (tree.resolve working path).place? = some location := by rw [resolved]; rfl
      exact place?_resolve leads
    · left
      by_cases root : location = []
      · simp [root]
      · simp [get?_put, here, root]

theorem LiesOn.of_parent {working location : Location} {root part : String}
    {parts : List String} (lies : LiesOn working ⟨root, parts.reverse⟩ location) :
    LiesOn working ⟨root, (part :: parts).reverse⟩ location := by
  obtain ⟨lead, leading, there⟩ := lies
  exact ⟨lead, by simpa using leading.trans (List.prefix_append _ [part]), there⟩

/-- Making sure of a directory fails at once, or makes sure of it alone, or of those that lead to
it first. -/
theorem ensureDirectoriesFrom_cons (working : Location) (root part : String)
    (parts : List String) (tree : FileTree) :
    ensureDirectoriesFrom working root (part :: parts) tree = (.error .nullCharacter, tree) ∨
    ensureDirectoriesFrom working root (part :: parts) tree =
      ensureDirectory working ⟨root, (part :: parts).reverse⟩ tree ∨
    ensureDirectoriesFrom working root (part :: parts) tree =
      (ensureDirectoriesFrom working root parts >>= fun _ =>
        ensureDirectory working ⟨root, (part :: parts).reverse⟩) tree := by
  simp only [ensureDirectoriesFrom]
  split
  next null => exact .inl rfl
  next named =>
    right
    rw [bind_of_ok (get_run tree)]
    cases tree.resolve working ⟨root, (part :: parts).reverse⟩ with
    | present | absent => exact .inl rfl
    | blocked obstacle => cases obstacle <;> first | exact .inl rfl | exact .inr rfl

/-- However it ends, making sure of a directory adds no more than the directories on its path. -/
theorem ensureDirectoriesFrom_gains {tree : FileTree} (wellFormed : tree.WellFormed)
    (working : Location) (root : String) (parts : List String) :
    (ensureDirectoriesFrom working root parts tree).2.WellFormed ∧
      GainsDirectories (LiesOn working ⟨root, parts.reverse⟩) tree
        (ensureDirectoriesFrom working root parts tree).2 := by
  -- The parts come last first: the induction climbs from the path to what leads there.
  induction parts generalizing tree with
  | nil => exact ensureDirectory_gains wellFormed working ⟨root, []⟩
  | cons part parts ih =>
      rcases ensureDirectoriesFrom_cons working root part parts tree with ran | ran | ran
      · rw [ran]
        exact ⟨wellFormed, .refl _ tree⟩
      · rw [ran]
        exact ensureDirectory_gains wellFormed working ⟨root, (part :: parts).reverse⟩
      · rw [ran]
        obtain ⟨between, gained⟩ := ih wellFormed
        rcases above : ensureDirectoriesFrom working root parts tree with ⟨fault | made, after⟩
        · rw [bind_of_error above]
          rw [above] at between gained
          exact ⟨between, gained.mono fun _ => .of_parent⟩
        · rw [bind_of_ok above]
          rw [above] at between gained
          obtain ⟨last, gainedLast⟩ :=
            ensureDirectory_gains between working ⟨root, (part :: parts).reverse⟩
          exact ⟨last, (gained.mono fun _ => .of_parent).trans gainedLast⟩

/-- However it ends, making sure of a directory adds no more than the directories on its path. -/
theorem ensureDirectories_gains {tree : FileTree} (wellFormed : tree.WellFormed)
    (working : Location) (path : FilePath) :
    (ensureDirectories working path tree).2.WellFormed ∧
      GainsDirectories (LiesOn working path) tree (ensureDirectories working path tree).2 := by
  simpa [ensureDirectories] using
    ensureDirectoriesFrom_gains wellFormed working path.root path.parts.reverse

theorem resolve_of_ensureDirectory {before after : FileTree} (wellFormed : before.WellFormed)
    {working : Location} {path : FilePath}
    (ran : ensureDirectory working path before = (.ok (), after)) :
    ∃ place, after.resolve working path = .present place .directory := by
  rcases ensureDirectory_run working path before with
    ⟨fault, failed⟩ | ⟨place, present, found⟩ | ⟨place, absent, made⟩
  · simp [failed] at ran
  · obtain rfl : before = after := congrArg Prod.snd (found.symm.trans ran)
    exact ⟨place, present⟩
  · obtain rfl : before.put place .directory = after := congrArg Prod.snd (made.symm.trans ran)
    exact ⟨place, resolve_put wellFormed .directory absent⟩

/-- Making sure of a directory succeeds only if the path leads to one afterwards. -/
theorem resolve_of_ensureDirectories {before after : FileTree} (wellFormed : before.WellFormed)
    {working : Location} {path : FilePath}
    (ran : ensureDirectories working path before = (.ok (), after)) :
    ∃ place, after.resolve working path = .present place .directory := by
  -- Whatever was made above the path, the last step makes sure of the path itself.
  have last : ∀ parts, ensureDirectoriesFrom working path.root parts before = (.ok (), after) →
      ∃ place, after.resolve working ⟨path.root, parts.reverse⟩ = .present place .directory := by
    intro parts made
    cases parts with
    | nil => exact resolve_of_ensureDirectory wellFormed made
    | cons part parts =>
        rcases ensureDirectoriesFrom_cons working path.root part parts before with
          failed | alone | above
        · simp [failed] at made
        · exact resolve_of_ensureDirectory wellFormed (alone.symm.trans made)
        · obtain ⟨_, between, led, rest⟩ := bind_eq_ok (above.symm.trans made)
          have stays := (ensureDirectoriesFrom_gains wellFormed working path.root parts).1
          rw [led] at stays
          exact resolve_of_ensureDirectory stays rest
  simpa using last path.parts.reverse ran

/-- Making one directory fails, or makes it where there was nothing. -/
theorem makeDirectory_run (working : Location) (path : FilePath) (tree : FileTree) :
    (∃ fault, makeDirectory working path tree = (.error fault, tree)) ∨
    ∃ place, tree.resolve working path = .absent place ∧
      makeDirectory working path tree = (.ok (), tree.put place .directory) := by
  unfold makeDirectory
  by_cases null : path.hasNull
  · exact .inl ⟨.nullCharacter, by simp [null, bind_run]⟩
  · cases resolved : tree.resolve working path with
    | present place node =>
        exact .inl ⟨.obstacle .exists path.text, by simp [null, bind_run, resolved, block]⟩
    | absent place => exact .inr ⟨place, rfl, by simp [null, bind_run, resolved]⟩
    | blocked obstacle =>
        exact .inl ⟨.obstacle obstacle path.text, by simp [null, bind_run, resolved, block]⟩

/-! ## Files -/

/-- What is the case after a file was written: the path leads to its content, and all else is as
before. -/
structure Written (working : Location) (path : FilePath) (content : Text.Bytes)
    (before after : FileTree) : Prop where
  named : path.hasNull = false
  wellFormed : after.WellFormed
  grows : before.Grows after
  resolved : after.resolve working path = .present (locate working path) (.file content)
  elsewhere : ∀ location, location ≠ locate working path →
    after.get? location = before.get? location

/-- Writing a file fails, replaces a file, or makes one. -/
theorem writeFile_run (working : Location) (path : FilePath) (content : Text.Bytes)
    (tree : FileTree) :
    (∃ fault, writeFile working path content tree = (.error fault, tree)) ∨
    path.hasNull = false ∧ ∃ place,
      (tree.resolve working path = .absent place ∨
        ∃ old, tree.resolve working path = .present place (.file old)) ∧
      writeFile working path content tree = (.ok (), tree.put place (.file content)) := by
  unfold writeFile
  by_cases null : path.hasNull
  · exact .inl ⟨.nullCharacter, by simp [null, bind_run]⟩
  · have named : path.hasNull = false := by simpa using null
    cases resolved : tree.resolve working path with
    | present place node =>
        cases node with
        | directory =>
            exact .inl ⟨.obstacle .isDirectory path.text,
              by simp [null, bind_run, resolved, block]⟩
        | file old =>
            exact .inr ⟨named, place, .inr ⟨old, rfl⟩, by simp [null, bind_run, resolved]⟩
    | absent place =>
        exact .inr ⟨named, place, .inl rfl, by simp [null, bind_run, resolved]⟩
    | blocked obstacle =>
        exact .inl ⟨.obstacle obstacle path.text, by simp [null, bind_run, resolved, block]⟩

/-- A tree in which a file is put over a file, or where there was nothing, has grown. -/
theorem grows_put {tree : FileTree} {place : Location} (content : Text.Bytes)
    (free : tree.get? place ≠ some .directory) :
    tree.Grows (tree.put place (.file content)) := by
  have proper : place ≠ [] := fun root => free (by simp [root])
  intro location node found
  by_cases here : location = place
  · subst here
    cases node with
    | directory => exact absurd found free
    | file old => exact ⟨.file content, by simp [get?_put, proper], rfl⟩
  · by_cases root : location = []
    · subst root
      exact ⟨node, by simpa using found, rfl⟩
    · exact ⟨node, by simpa [get?_put, here, root] using found, rfl⟩

theorem written_of_writeFile {before after : FileTree} (wellFormed : before.WellFormed)
    {working : Location} {path : FilePath} {content : Text.Bytes}
    (ran : writeFile working path content before = (.ok (), after)) :
    Written working path content before after := by
  rcases writeFile_run working path content before with
    ⟨fault, failed⟩ | ⟨named, place, target, made⟩
  · simp [failed] at ran
  obtain rfl : before.put place (.file content) = after := congrArg Prod.snd (made.symm.trans ran)
  have leads : (before.resolve working path).place? = some place := by
    rcases target with absent | ⟨old, present⟩
    · rw [absent]; rfl
    · rw [present]; rfl
  have here : place = locate working path := place?_resolve leads
  have free : before.get? place ≠ some .directory := by
    rcases target with absent | ⟨old, present⟩
    · simp [(holds_of_resolve wellFormed absent).1]
    · have held : before.get? place = some (.file old) := holds_of_resolve wellFormed present
      simp [held]
  have inside : before.get? place.dropLast = some .directory := by
    rcases target with absent | ⟨old, present⟩
    · exact (holds_of_resolve wellFormed absent).2
    · exact wellFormed.dropLast (holds_of_resolve wellFormed present)
  have proper : place ≠ [] := fun root => free (by simp [root])
  have grows : before.Grows (before.put place (.file content)) := grows_put content free
  have stays : (before.put place (.file content)).WellFormed := wellFormed.put inside free
  refine ⟨named, stays, grows, ?_, ?_⟩
  · rw [← here]
    rcases target with absent | ⟨old, present⟩
    · exact resolve_put wellFormed _ absent
    · obtain ⟨later, resolved, _⟩ := grows.resolve present
      have held := holds_of_resolve stays resolved
      have entry : (before.put place (.file content)).get? place = some (.file content) := by
        simp [get?_put, proper]
      rw [resolved, Option.some.inj (entry.symm.trans held)]
  · intro location apart
    rw [← here] at apart
    by_cases root : location = []
    · simp [root]
    · simp [get?_put, apart, root]

/-- The file that a path leads to can be read. -/
theorem readFile_of_resolve {tree : FileTree} {working place : Location} {path : FilePath}
    {content : Text.Bytes} (named : path.hasNull = false)
    (resolved : tree.resolve working path = .present place (.file content)) :
    readFile working path tree = (.ok content, tree) := by
  simp [readFile, named, bind_run, resolved]

end Multitarget.FileTree
