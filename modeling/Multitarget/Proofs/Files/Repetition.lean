import Multitarget.Proofs.Files.Access

/-!
# Making sure of directories again

A directory that was made sure of is found the second time. Making sure of one that failed
fails again without a change, but it may fail differently: if it failed at a path that leads
to the directory, those that were made by then now lead to what was in the way, and the
second attempt meets it from the directory itself.
-/

namespace Multitarget

/-- What an obstacle is for a path that goes on behind it: below a file there is no directory. -/
def Obstacle.behind : Obstacle → Obstacle
  | .exists => .notDirectory
  | obstacle => obstacle

/-- How making sure of a directory fails the second time: as it did before, or, if it failed at a
path that leads to the directory, at the directory itself, which lies behind the obstacle. -/
inductive FileFault.Recurs (path : FilePath) : FileFault → FileFault → Prop where
  | same (fault : FileFault) : Recurs path fault fault
  | behind {obstacle : Obstacle} {lead : List String} :
      obstacle = .exists ∨ obstacle = .nameTooLong → lead <+: path.parts → lead ≠ path.parts →
      Recurs path (.obstacle obstacle (FilePath.text ⟨path.root, lead⟩))
        (.obstacle obstacle.behind path.text)

namespace FileTree

/-! ## One part further -/

/-- A path that is short enough without its last part. -/
theorem short_of_snoc {root part : String} {parts : List String}
    (short : (Text.Utf8.encode (FilePath.text ⟨root, parts ++ [part]⟩)).length ≤ pathLimit) :
    (Text.Utf8.encode (FilePath.text ⟨root, parts⟩)).length ≤ pathLimit := by
  have grows : ∀ first second : String,
      (Text.Utf8.encode first).length ≤ (Text.Utf8.encode (first ++ second)).length := by
    intro first second
    simp [Text.Utf8.encode, Text.Utf8.encodeChars]
  by_cases empty : root = "" ∧ parts = []
  · obtain ⟨rfl, rfl⟩ := empty
    decide
  · refine Nat.le_trans ?_ short
    have proper : ¬(root = "" ∧ parts ++ [part] = []) := by simp
    simp only [FilePath.text, empty, proper, if_false]
    by_cases first : parts = []
    · subst first
      simpa using grows root part
    · rw [String.intercalate_append_of_ne_nil first (List.cons_ne_nil part []),
        ← String.append_assoc, ← String.append_assoc, String.append_assoc]
      exact grows _ _

theorem short_of_resolve {tree : FileTree} {working : Location} {path : FilePath}
    (missing : tree.resolve working path = .blocked .noEntry) :
    (Text.Utf8.encode path.text).length ≤ pathLimit := by
  refine Nat.le_of_not_lt fun long => ?_
  simp [resolve, long] at missing

theorem follow_snoc (tree : FileTree) (location : Location) (node : FileNode)
    (parts : List String) (part : String) :
    tree.follow location node (parts ++ [part]) =
      match tree.follow location node parts with
      | .present place found => tree.follow place found [part]
      | .absent _ => .blocked .noEntry
      | .blocked obstacle => .blocked obstacle := by
  induction parts generalizing location node with
  | nil => rfl
  | cons first rest ih =>
      cases node with
      | file content => rfl
      | directory =>
          simp only [List.cons_append, follow]
          by_cases up : first = ".."
          · simp only [up, if_true]
            exact ih _ _
          · simp only [up, if_false]
            by_cases long : nameLimit < (Text.Utf8.encode first).length
            · simp only [long, if_true]
            · simp only [long, if_false]
              cases tree.get? (location ++ [first]) with
              | some child => exact ih _ _
              | none => by_cases last : rest = [] <;> simp [last]

/-- One part further a path leads to what that part names where the others lead. -/
theorem resolve_snoc (tree : FileTree) (working : Location) {root part : String}
    {parts : List String}
    (short : (Text.Utf8.encode (FilePath.text ⟨root, parts ++ [part]⟩)).length ≤ pathLimit) :
    tree.resolve working ⟨root, parts ++ [part]⟩ =
      match tree.resolve working ⟨root, parts⟩ with
      | .present place node => tree.follow place node [part]
      | .absent _ => .blocked .noEntry
      | .blocked obstacle => .blocked obstacle := by
  have shorter := short_of_snoc short
  simp only [resolve, Nat.not_lt.mpr short, Nat.not_lt.mpr shorter, if_false,
    FilePath.isAbsolute]
  by_cases absolute : (root != "") = true
  · simp only [absolute, if_true, follow_snoc]
  · simp only [absolute]
    cases tree.get? working with
    | some node => exact follow_snoc tree working node parts part
    | none => rfl

/-! ## Directories -/

/-- What keeps a directory from being at a path: a file that is there, or a name that is too
long. -/
def Obstructs (tree : FileTree) (working : Location) (path : FilePath) (obstacle : Obstacle) :
    Prop :=
  (obstacle = .exists ∧
    ∃ place content, tree.resolve working path = .present place (.file content)) ∨
  (obstacle = .nameTooLong ∧ tree.resolve working path = .blocked .nameTooLong)

variable {tree after : FileTree} {working : Location} {path : FilePath} {root part : String}
  {parts : List String}

/-- Behind what obstructs a path, a longer one is blocked. -/
theorem Obstructs.behind {obstacle : Obstacle}
    (short : (Text.Utf8.encode (FilePath.text ⟨root, parts ++ [part]⟩)).length ≤ pathLimit)
    (obstructs : tree.Obstructs working ⟨root, parts⟩ obstacle) :
    tree.resolve working ⟨root, parts ++ [part]⟩ = .blocked obstacle.behind := by
  rw [resolve_snoc tree working short]
  rcases obstructs with ⟨rfl, place, content, present⟩ | ⟨rfl, blocked⟩
  · rw [present]
    rfl
  · rw [blocked]
    rfl

theorem ensureDirectory_present {place : Location} (named : path.hasNull = false)
    (present : tree.resolve working path = .present place .directory) :
    ensureDirectory working path tree = (.ok (), tree) := by
  simp [ensureDirectory, named, bind_run, present]

theorem ensureDirectory_blocked {obstacle : Obstacle} (named : path.hasNull = false)
    (blocked : tree.resolve working path = .blocked obstacle) :
    ensureDirectory working path tree = (.error (.obstacle obstacle path.text), tree) := by
  simp [ensureDirectory, named, bind_run, blocked, block]

theorem ensureDirectory_obstructed {obstacle : Obstacle} (named : path.hasNull = false)
    (obstructs : tree.Obstructs working path obstacle) :
    ensureDirectory working path tree = (.error (.obstacle obstacle path.text), tree) := by
  rcases obstructs with ⟨rfl, place, content, present⟩ | ⟨rfl, blocked⟩
  · simp [ensureDirectory, named, bind_run, present, block]
  · exact ensureDirectory_blocked named blocked

/-- From a directory one part leads to an entry or to a place for one, unless it is too long. -/
theorem blocked_of_follow_part {place : Location} {obstacle : Obstacle}
    (blocked : tree.follow place .directory [part] = .blocked obstacle) :
    obstacle = .nameTooLong := by
  simp only [follow] at blocked
  split at blocked
  · simp at blocked
  · split at blocked
    · exact (Target.blocked.inj blocked).symm
    · split at blocked <;> simp at blocked

/-- Below a directory, nothing but an obstruction keeps another from being made. -/
theorem of_ensureDirectory_below {place : Location} {fault : FileFault}
    (named : FilePath.hasNull ⟨root, parts ++ [part]⟩ = false)
    (short : (Text.Utf8.encode (FilePath.text ⟨root, parts ++ [part]⟩)).length ≤ pathLimit)
    (present : tree.resolve working ⟨root, parts⟩ = .present place .directory)
    (ran : ensureDirectory working ⟨root, parts ++ [part]⟩ tree = (.error fault, after)) :
    after = tree ∧ ∃ obstacle, tree.Obstructs working ⟨root, parts ++ [part]⟩ obstacle ∧
      fault = .obstacle obstacle (FilePath.text ⟨root, parts ++ [part]⟩) := by
  have resolved := resolve_snoc tree working short
  rw [present] at resolved
  have obstructed : ∃ obstacle, tree.Obstructs working ⟨root, parts ++ [part]⟩ obstacle := by
    cases met : tree.resolve working ⟨root, parts ++ [part]⟩ with
    | present location node =>
        cases node with
        | directory => simp [ensureDirectory_present named met] at ran
        | file content => exact ⟨.exists, .inl ⟨rfl, location, content, met⟩⟩
    | absent location => simp [ensureDirectory, named, bind_run, met] at ran
    | blocked obstacle =>
        obtain rfl := blocked_of_follow_part (resolved.symm.trans met)
        exact ⟨.nameTooLong, .inr ⟨rfl, met⟩⟩
  obtain ⟨obstacle, obstructs⟩ := obstructed
  rw [ensureDirectory_obstructed named obstructs, ended_inj] at ran
  exact ⟨ran.2.symm, obstacle, obstructs, (Except.error.inj ran.1).symm⟩

theorem ensureDirectoriesFrom_alone
    (named : FilePath.hasNull ⟨root, (part :: parts).reverse⟩ = false)
    (met : tree.resolve working ⟨root, (part :: parts).reverse⟩ ≠ .blocked .noEntry) :
    ensureDirectoriesFrom working root (part :: parts) tree =
      ensureDirectory working ⟨root, (part :: parts).reverse⟩ tree := by
  simp only [ensureDirectoriesFrom, named]
  cases resolved : tree.resolve working ⟨root, (part :: parts).reverse⟩ with
  | present | absent => simp [bind_run, resolved, -List.reverse_cons]
  | blocked obstacle =>
      cases obstacle with
      | noEntry => exact absurd resolved met
      | _ => simp [bind_run, resolved, -List.reverse_cons]

theorem ensureDirectoriesFrom_above
    (named : FilePath.hasNull ⟨root, (part :: parts).reverse⟩ = false)
    (missing : tree.resolve working ⟨root, (part :: parts).reverse⟩ = .blocked .noEntry) :
    ensureDirectoriesFrom working root (part :: parts) tree =
      (ensureDirectoriesFrom working root parts >>= fun _ =>
        ensureDirectory working ⟨root, (part :: parts).reverse⟩) tree := by
  simp only [ensureDirectoriesFrom, named]
  simp [bind_run, missing, -List.reverse_cons]

/-- A path that does not fail for want of an entry says at once whether it leads to a directory. -/
theorem ensureDirectories_alone (named : path.hasNull = false)
    (met : tree.resolve working path ≠ .blocked .noEntry) :
    ensureDirectories working path tree = ensureDirectory working path tree := by
  obtain ⟨root, parts⟩ := path
  rw [ensureDirectories]
  cases spelled : parts.reverse with
  | nil =>
      obtain rfl : parts = [] := List.reverse_eq_nil_iff.mp spelled
      rfl
  | cons part rest =>
      obtain rfl : parts = (part :: rest).reverse := by rw [← spelled, List.reverse_reverse]
      exact ensureDirectoriesFrom_alone named met

/-- A directory whose name no file has cannot be made sure of. -/
theorem ensureDirectories_unnamed (unnamed : path.hasNull = true) :
    ensureDirectories working path tree = (.error .nullCharacter, tree) := by
  obtain ⟨root, parts⟩ := path
  rw [ensureDirectories]
  cases spelled : parts.reverse with
  | nil =>
      obtain rfl : parts = [] := List.reverse_eq_nil_iff.mp spelled
      simp [ensureDirectoriesFrom, ensureDirectory, unnamed]
  | cons part rest =>
      obtain rfl : parts = (part :: rest).reverse := by rw [← spelled, List.reverse_reverse]
      simp only [ensureDirectoriesFrom, unnamed, if_true, bind_run, throw_run]

/-- A directory that is there is made sure of without a change. -/
theorem ensureDirectories_present {place : Location} (named : path.hasNull = false)
    (present : tree.resolve working path = .present place .directory) :
    ensureDirectories working path tree = (.ok (), tree) := by
  rw [ensureDirectories_alone named (by simp [present])]
  exact ensureDirectory_present named present

theorem ensureDirectory_fault_eq {fault : FileFault}
    (ran : ensureDirectory working path tree = (.error fault, after)) : after = tree := by
  rcases ensureDirectory_run working path tree with ⟨other, failed⟩ | ⟨_, _, made⟩ | ⟨_, _, made⟩
  · rw [failed, ended_inj] at ran
    exact ran.2.symm
  · simp [made] at ran
  · simp [made] at ran

/-- What a failed attempt to make sure of a directory leaves in the way: an obstruction of the path
itself, or one of a path that leads there. -/
inductive Leaves (after : FileTree) (working : Location) (path : FilePath) : FileFault → Prop where
  | here {obstacle : Obstacle} : after.Obstructs working path obstacle →
      Leaves after working path (.obstacle obstacle path.text)
  | above {obstacle : Obstacle} {lead : List String} :
      obstacle = .exists ∨ obstacle = .nameTooLong → lead <+: path.parts → lead ≠ path.parts →
      after.resolve working path = .blocked obstacle.behind →
      Leaves after working path (.obstacle obstacle (FilePath.text ⟨path.root, lead⟩))

theorem Obstructs.kind {obstacle : Obstacle} (obstructs : tree.Obstructs working path obstacle) :
    obstacle = .exists ∨ obstacle = .nameTooLong :=
  obstructs.imp And.left And.left

theorem Leaves.snoc {fault : FileFault}
    (short : (Text.Utf8.encode (FilePath.text ⟨root, parts ++ [part]⟩)).length ≤ pathLimit)
    (leaves : after.Leaves working ⟨root, parts⟩ fault) :
    after.Leaves working ⟨root, parts ++ [part]⟩ fault := by
  have proper : ∀ lead : List String, lead <+: parts → lead <+: parts ++ [part] ∧
      lead ≠ parts ++ [part] := by
    intro lead leading
    refine ⟨leading.trans (List.prefix_append _ _), fun same => ?_⟩
    have longer : lead.length = parts.length + 1 := by rw [same, List.length_append]; rfl
    have shorter := leading.length_le
    omega
  cases leaves with
  | here obstructs =>
      obtain ⟨leading, less⟩ := proper parts List.prefix_rfl
      exact .above obstructs.kind leading less (obstructs.behind short)
  | @above obstacle lead kind leading _ blocked =>
      obtain ⟨leads, less⟩ := proper lead leading
      refine .above kind leads less ?_
      rw [resolve_snoc after working short, blocked]

/-- Making sure of a directory that fails has changed nothing, or leaves an obstacle. -/
theorem leaves_of_ensureDirectoriesFrom {fault : FileFault} (wellFormed : tree.WellFormed)
    (ran : ensureDirectoriesFrom working root parts tree = (.error fault, after)) :
    after = tree ∨ FilePath.hasNull ⟨root, parts.reverse⟩ = false ∧
      after.Leaves working ⟨root, parts.reverse⟩ fault := by
  induction parts generalizing after fault with
  | nil => exact .inl (ensureDirectory_fault_eq ran)
  | cons part parts ih =>
      cases null : FilePath.hasNull ⟨root, (part :: parts).reverse⟩ with
      | true =>
          simp only [ensureDirectoriesFrom, null, if_true, bind_run, throw_run, ended_inj] at ran
          exact .inl ran.2.symm
      | false =>
          by_cases missing : tree.resolve working ⟨root, (part :: parts).reverse⟩ =
              .blocked .noEntry
          · -- The directory was to be made in one that was made first, or failed to be.
            rw [ensureDirectoriesFrom_above null missing] at ran
            have short : (Text.Utf8.encode
                (FilePath.text ⟨root, (part :: parts).reverse⟩)).length ≤ pathLimit :=
              short_of_resolve missing
            rcases bind_eq_error ran with above | ⟨_, between, above, below⟩
            · rcases ih above with rfl | ⟨_, leaves⟩
              · exact .inl rfl
              · right
                rw [List.reverse_cons] at short ⊢
                exact ⟨rfl, leaves.snoc short⟩
            · have made : ensureDirectories working ⟨root, parts.reverse⟩ tree =
                  (.ok (), between) := by
                rw [ensureDirectories, List.reverse_reverse]
                exact above
              obtain ⟨place, present⟩ := resolve_of_ensureDirectories wellFormed made
              rw [List.reverse_cons] at null short below ⊢
              obtain ⟨rfl, obstacle, obstructs, rfl⟩ :=
                of_ensureDirectory_below null short present below
              exact .inr ⟨rfl, .here obstructs⟩
          · rw [ensureDirectoriesFrom_alone null missing] at ran
            exact .inl (ensureDirectory_fault_eq ran)

theorem Leaves.ran {fault : FileFault} (named : path.hasNull = false)
    (leaves : after.Leaves working path fault) :
    ∃ second, ensureDirectories working path after = (.error second, after) ∧
      fault.Recurs path second := by
  cases leaves with
  | @here obstacle obstructs =>
      have met : after.resolve working path ≠ .blocked .noEntry := by
        rcases obstructs with ⟨_, place, content, present⟩ | ⟨_, blocked⟩
        · simp [present]
        · simp [blocked]
      refine ⟨_, ?_, .same _⟩
      rw [ensureDirectories_alone named met]
      exact ensureDirectory_obstructed named obstructs
  | @above obstacle lead kind leading less blocked =>
      have met : after.resolve working path ≠ .blocked .noEntry := by
        rw [blocked]
        rcases kind with rfl | rfl <;> simp [Obstacle.behind]
      refine ⟨_, ?_, .behind kind leading less⟩
      rw [ensureDirectories_alone named met]
      exact ensureDirectory_blocked named blocked

/-- Making sure of a directory that failed fails again without a change. -/
theorem ensureDirectories_again {fault : FileFault} (wellFormed : tree.WellFormed)
    (ran : ensureDirectories working path tree = (.error fault, after)) :
    ∃ second, ensureDirectories working path after = (.error second, after) ∧
      fault.Recurs path second := by
  have left := leaves_of_ensureDirectoriesFrom wellFormed ran
  rw [List.reverse_reverse] at left
  rcases left with rfl | ⟨named, leaves⟩
  · exact ⟨fault, ran, .same fault⟩
  · exact leaves.ran named

end FileTree

end Multitarget
