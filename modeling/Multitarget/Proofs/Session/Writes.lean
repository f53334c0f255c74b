import Multitarget.Proofs.Files.Access
import Multitarget.Proofs.Session.Action

/-!
# Written files

Between two sessions files were written one after another, and directories made on
the way. Of the files written to one location the last one counts, and every file
that nothing was written to is as before.
-/

namespace Multitarget

/-- What was written to a location last. -/
def lastWrite (writes : List (Location × Text.Bytes)) (location : Location) :
    Option Text.Bytes :=
  (writes.filter fun write => write.1 = location).getLast?.map Prod.snd

@[simp] theorem lastWrite_nil (location : Location) : lastWrite [] location = none := rfl

theorem lastWrite_append (first second : List (Location × Text.Bytes)) (location : Location) :
    lastWrite (first ++ second) location =
      (lastWrite second location).or (lastWrite first location) := by
  simp [lastWrite, List.getLast?_append, Option.map_or]

theorem lastWrite_singleton (place location : Location) (content : Text.Bytes) :
    lastWrite [(place, content)] location = if place = location then some content else none := by
  by_cases here : place = location <;> simp [lastWrite, here]

theorem lastWrite_cons (write : Location × Text.Bytes) (rest : List (Location × Text.Bytes))
    (location : Location) :
    lastWrite (write :: rest) location =
      (lastWrite rest location).or (if write.1 = location then some write.2 else none) := by
  rw [← List.singleton_append, lastWrite_append, lastWrite_singleton]

theorem lastWrite_eq_none {writes : List (Location × Text.Bytes)} {location : Location}
    (unwritten : location ∉ writes.map Prod.fst) : lastWrite writes location = none := by
  have none : writes.filter (fun write => write.1 = location) = [] := by
    rw [List.filter_eq_nil_iff]
    intro write listed same
    exact unwritten (List.mem_map.mpr ⟨write, listed, of_decide_eq_true same⟩)
  rw [lastWrite, none]
  rfl

theorem exists_lastWrite {writes : List (Location × Text.Bytes)} {location : Location}
    (written : location ∈ writes.map Prod.fst) :
    ∃ content, lastWrite writes location = some content := by
  induction writes with
  | nil => simp at written
  | cons write rest ih =>
      rw [lastWrite_cons]
      by_cases later : location ∈ rest.map Prod.fst
      · obtain ⟨content, last⟩ := ih later
        exact ⟨content, by rw [last, Option.some_or]⟩
      · have here : write.1 = location := by simpa [later, eq_comm] using written
        exact ⟨write.2, by rw [lastWrite_eq_none later, Option.none_or, if_pos here]⟩

namespace FileTree

/-- Whether a path can be read as a file. -/
def LeadsToFile (tree : FileTree) (working : Location) (path : FilePath) : Prop :=
  path.hasNull = false ∧
    ∃ content, tree.resolve working path = .present (locate working path) (.file content)

theorem LeadsToFile.grows {before after : FileTree} {working : Location} {path : FilePath}
    (leads : before.LeadsToFile working path) (grows : before.Grows after) :
    after.LeadsToFile working path := by
  obtain ⟨named, content, resolved⟩ := leads
  obtain ⟨later, still, kind⟩ := grows.resolve resolved
  cases later with
  | directory => simp [FileNode.isDirectory] at kind
  | file other => exact ⟨named, other, still⟩

/-- Reading a file gives the content at its location. -/
theorem LeadsToFile.readFile {tree : FileTree} (wellFormed : tree.WellFormed)
    {working : Location} {path : FilePath} {content : Text.Bytes}
    (leads : tree.LeadsToFile working path)
    (found : tree.contentAt (locate working path) = some content) :
    readFile working path tree = (.ok content, tree) := by
  obtain ⟨named, other, resolved⟩ := leads
  have held : tree.get? (locate working path) = some (.file other) :=
    holds_of_resolve wellFormed resolved
  rw [contentAt_eq_some, held, Option.some.injEq, FileNode.file.injEq] at found
  subst found
  exact readFile_of_resolve named resolved

/-- Reading gives the content of the file that a path leads to. -/
theorem resolve_of_readFile {tree after : FileTree} {working : Location} {path : FilePath}
    {content : Text.Bytes} (read : FileTree.readFile working path tree = (.ok content, after)) :
    tree.resolve working path = .present (locate working path) (.file content) := by
  unfold FileTree.readFile at read
  by_cases null : path.hasNull
  · simp [null, bind_run] at read
  · cases resolved : tree.resolve working path with
    | present place node =>
        have here : place = locate working path := place?_resolve (by rw [resolved]; rfl)
        cases node with
        | directory => simp [null, bind_run, resolved, block] at read
        | file held =>
            have same : held = content ∧ tree = after := by
              simpa [null, bind_run, resolved] using read
            rw [here, same.1]
    | absent | blocked => simp [null, bind_run, resolved, block] at read

end FileTree

namespace Session

/-- Between two sessions some files were written, and all other files are as before. -/
structure Writes (writes : List (Location × Text.Bytes)) (before after : Session) : Prop where
  working : after.working = before.working
  wellFormed : after.files.WellFormed
  grows : before.files.Grows after.files
  contentAt : ∀ location, after.files.contentAt location =
    (lastWrite writes location).or (before.files.contentAt location)

namespace Writes

variable {before between after : Session} {writes more : List (Location × Text.Bytes)}

theorem trans (former : Writes writes before between) (latter : Writes more between after) :
    Writes (writes ++ more) before after where
  working := latter.working.trans former.working
  wellFormed := latter.wellFormed
  grows := former.grows.trans latter.grows
  contentAt location := by
    rw [latter.contentAt, former.contentAt, lastWrite_append, Option.or_assoc]

/-- Nothing is written where only events are noted and contexts used. -/
theorem of_passes (wellFormed : before.files.WellFormed) (passes : before.Passes after) :
    Writes [] before after where
  working := passes.working_eq
  wellFormed := passes.files_eq ▸ wellFormed
  grows := passes.files_eq ▸ .refl before.files
  contentAt location := by simp [passes.files_eq]

theorem note (done : Writes writes before after) (events : List Event) :
    Writes writes before (after.note events) :=
  ⟨done.working, done.wellFormed, done.grows, done.contentAt⟩

end Writes

end Session

namespace Action

variable {session after : Session} {path : FilePath} {content : Text.Bytes}

/-- Making sure of a directory writes no file. -/
theorem prepareDirectory_writes (wellFormed : session.files.WellFormed)
    (ran : prepareDirectory path session = (.ok (), after)) : session.Writes [] after := by
  rw [prepareDirectory_run, ended_inj] at ran
  obtain ⟨_, rfl⟩ := ran
  obtain ⟨stays, gains⟩ := FileTree.ensureDirectories_gains wellFormed session.working path
  exact ⟨rfl, stays, gains.grows, fun location => by simpa using gains.contentAt_eq location⟩

/-- Writing a file writes just that one, and then it is there. -/
theorem storeFile_writes (wellFormed : session.files.WellFormed)
    (ran : storeFile path content session = (.ok (), after)) :
    session.Writes [(FileTree.locate session.working path, content)] after ∧
      after.files.LeadsToFile after.working path := by
  rw [storeFile_run, ended_inj] at ran
  obtain ⟨succeeded, rfl⟩ := ran
  rcases stored : FileTree.writeFile session.working path content session.files with
    ⟨fault | done, files⟩
  · simp [stored] at succeeded
  · have written := FileTree.written_of_writeFile wellFormed stored
    refine ⟨⟨rfl, written.wellFormed, written.grows, fun location => ?_⟩,
      written.named, content, written.resolved⟩
    rw [lastWrite_singleton]
    by_cases here : FileTree.locate session.working path = location
    · subst here
      have held : files.get? (FileTree.locate session.working path) = some (.file content) :=
        FileTree.holds_of_resolve written.wellFormed written.resolved
      simp [FileTree.contentAt, held]
    · have apart := written.elsewhere location fun same => here same.symm
      simp [FileTree.contentAt, apart, here]

/-- The file that a path leads to can be read. -/
theorem readFile_run {session : Session} (wellFormed : session.files.WellFormed)
    (leads : session.files.LeadsToFile session.working path)
    (found : session.files.contentAt (FileTree.locate session.working path) = some content) :
    readFile path session = (.ok content, session) := by
  rw [readFile, onFiles_run, leads.readFile wellFormed found]
  rfl

/-- A path that leads to a file can be read. -/
theorem readable_of_leads {session : Session}
    (leads : session.files.LeadsToFile session.working path) :
    ∃ content, readFile path session = (.ok content, session) := by
  obtain ⟨named, content, resolved⟩ := leads
  refine ⟨content, ?_⟩
  rw [readFile, onFiles_run, FileTree.readFile_of_resolve named resolved]
  rfl

/-- What is read is the content at the location of the path. -/
theorem contentAt_of_readFile {session after : Session} (wellFormed : session.files.WellFormed)
    (read : readFile path session = (.ok content, after)) :
    session.files.contentAt (FileTree.locate session.working path) = some content := by
  rw [readFile, onFiles_run, ended_inj] at read
  rcases taken : FileTree.readFile session.working path session.files with ⟨fault | held, files⟩
  · simp [taken] at read
  · rw [taken, mapError_ok, Except.ok.injEq] at read
    obtain ⟨rfl, _⟩ := read
    exact FileTree.contentAt_eq_some.mpr
      (FileTree.holds_of_resolve wellFormed (FileTree.resolve_of_readFile taken))

end Action

end Multitarget
