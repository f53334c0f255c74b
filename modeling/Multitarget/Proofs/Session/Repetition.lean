import Multitarget.Proofs.Files.Repetition
import Multitarget.Proofs.Session.Writes

/-!
# Using files again

Where a path leads to a file, writing it again succeeds and changes no more than its
content. Writing files again whose last contents are there changes nothing at all, not even
the order in which the tree lists its entries.
-/

namespace Multitarget

namespace FileTree

variable {tree : FileTree}

/-! ## Putting files -/

theorem place_place (location : Location) (first second : FileNode)
    (entries : List (Location × FileNode)) :
    place location second (place location first entries) = place location second entries := by
  induction entries with
  | nil => simp [place]
  | cons entry rest ih =>
      obtain ⟨other, old⟩ := entry
      by_cases here : other = location
      · simp [place, here]
      · simp [place, here, ih]

/-- What is put over an entry comes in its place, so it does not matter what is put first. -/
theorem place_comm {location other : Location} (apart : location ≠ other) (node : FileNode)
    (entry : FileNode) {entries : List (Location × FileNode)}
    (present : find location entries ≠ none) :
    place other entry (place location node entries) =
      place location node (place other entry entries) := by
  induction entries with
  | nil => simp [find] at present
  | cons head rest ih =>
      obtain ⟨here, old⟩ := head
      by_cases first : here = location
      · subst first
        simp [place, apart]
      · by_cases second : here = other
        · subst second
          simp [place, first]
        · simp only [find, first, if_false] at present
          simp [place, first, second, ih present]

theorem place_self {location : Location} {node : FileNode}
    {entries : List (Location × FileNode)} (found : find location entries = some node) :
    place location node entries = entries := by
  induction entries with
  | nil => simp [find] at found
  | cons entry rest ih =>
      obtain ⟨other, old⟩ := entry
      by_cases here : other = location
      · simp only [find, here, if_true, Option.some.injEq] at found
        simp [place, here, found]
      · simp only [find, here, if_false] at found
        simp [place, here, ih found]

/-- Puts files at locations one after another. -/
def putAll (tree : FileTree) : List (Location × Text.Bytes) → FileTree
  | [] => tree
  | (location, content) :: rest => putAll (tree.put location (.file content)) rest

theorem find_of_contentAt {location : Location} {content : Text.Bytes}
    (found : tree.contentAt location = some content) :
    find location tree.entries = some (.file content) := by
  rw [contentAt_eq_some, get?] at found
  by_cases root : location = []
  · simp [root] at found
  · simpa [root] using found

theorem contentAt_put (location other : Location) (content : Text.Bytes)
    (proper : other ≠ []) :
    (tree.put location (.file content)).contentAt other =
      if other = location then some content else tree.contentAt other := by
  simp only [contentAt, get?_put, proper, if_false]
  by_cases here : other = location <;> simp [here]

theorem isSome_contentAt_put {location other : Location} (content : Text.Bytes)
    (present : (tree.contentAt other).isSome) :
    ((tree.put location (.file content)).contentAt other).isSome := by
  have proper : other ≠ [] := by
    rintro rfl
    simp [contentAt] at present
  rw [contentAt_put location other content proper]
  by_cases here : other = location <;> simp [here, present]

/-- A file is put for nothing where another is put later. -/
theorem putAll_put {location : Location} (content : Text.Bytes)
    {writes : List (Location × Text.Bytes)} (later : location ∈ writes.map Prod.fst)
    (present : ∀ write ∈ writes, (tree.contentAt write.1).isSome) :
    (tree.put location (.file content)).putAll writes = tree.putAll writes := by
  induction writes generalizing tree with
  | nil => simp at later
  | cons write rest ih =>
      obtain ⟨other, latest⟩ := write
      obtain ⟨held, heldRest⟩ := List.forall_mem_cons.mp present
      simp only [putAll]
      by_cases here : location = other
      · subst here
        simp only [put, place_place]
      · have later : location ∈ rest.map Prod.fst := by simpa [here] using later
        have found : find location tree.entries ≠ none := by
          obtain ⟨write, listed, rfl⟩ := List.mem_map.mp later
          obtain ⟨old, there⟩ := Option.isSome_iff_exists.mp (heldRest write listed)
          simp [find_of_contentAt there]
        have swapped : (tree.put location (.file content)).put other (.file latest) =
            (tree.put other (.file latest)).put location (.file content) := by
          simp only [put, place_comm here _ _ found]
        rw [swapped]
        exact ih later fun write listed => isSome_contentAt_put latest (heldRest write listed)

/-- Putting files again where the last of them are leaves the tree as it is. -/
theorem putAll_self {writes : List (Location × Text.Bytes)}
    (held : ∀ write ∈ writes, tree.contentAt write.1 = lastWrite writes write.1) :
    tree.putAll writes = tree := by
  induction writes with
  | nil => rfl
  | cons write rest ih =>
      obtain ⟨location, content⟩ := write
      -- Only the last write to a location tells what is held there.
      have heldRest : ∀ write ∈ rest, tree.contentAt write.1 = lastWrite rest write.1 := by
        intro write listed
        obtain ⟨last, found⟩ := exists_lastWrite (List.mem_map_of_mem listed)
        rw [held write (List.mem_cons_of_mem _ listed), lastWrite_cons, found, Option.some_or]
      rw [putAll]
      by_cases later : location ∈ rest.map Prod.fst
      · rw [putAll_put content later, ih heldRest]
        intro write listed
        obtain ⟨last, found⟩ := exists_lastWrite (List.mem_map_of_mem listed)
        rw [heldRest write listed, found]
        rfl
      · have here := held (location, content) List.mem_cons_self
        rw [lastWrite_cons, lastWrite_eq_none later, Option.none_or, if_pos rfl] at here
        have same : tree.put location (.file content) = tree := by
          rw [put, place_self (find_of_contentAt here)]
        rw [same, ih heldRest]

/-! ## Paths to files -/

/-- A path to a file leads through a directory. -/
theorem LeadsToFile.parent {working : Location} {path : FilePath} (proper : path.parts ≠ [])
    (leads : tree.LeadsToFile working path) :
    path.parent.hasNull = false ∧
      ∃ place, tree.resolve working path.parent = .present place .directory := by
  obtain ⟨root, parts⟩ := path
  obtain ⟨named, content, resolved⟩ := leads
  obtain rfl | ⟨parts, part, rfl⟩ := List.eq_nil_or_concat parts
  · exact absurd rfl proper
  rw [List.concat_eq_append] at named resolved ⊢
  obtain ⟨short, _⟩ := leads_of_resolve resolved rfl
  rw [resolve_snoc tree working short] at resolved
  simp only [FilePath.parent, List.dropLast_concat]
  constructor
  · simp only [FilePath.hasNull, List.any_append, Bool.or_eq_false_iff] at named ⊢
    exact named.1
  · cases met : tree.resolve working ⟨root, parts⟩ with
    | present place node =>
        cases node with
        | directory => exact ⟨place, rfl⟩
        | file other => simp [met, follow] at resolved
    | absent | blocked => simp [met] at resolved

theorem LeadsToFile.writeFile {working : Location} {path : FilePath}
    (leads : tree.LeadsToFile working path) (content : Text.Bytes) :
    writeFile working path content tree =
      (.ok (), tree.put (locate working path) (.file content)) := by
  obtain ⟨named, old, resolved⟩ := leads
  simp [FileTree.writeFile, named, bind_run, resolved]

end FileTree

namespace Action

variable {session after twin : Session} {path : FilePath} {content : Text.Bytes} {fault : Fault}

theorem prepareDirectory_present {place : Location} (named : path.hasNull = false)
    (present : session.files.resolve session.working path = .present place .directory) :
    prepareDirectory path session = (.ok (), session.note [.prepared path]) := by
  rw [prepareDirectory_run, FileTree.ensureDirectories_present named present]
  rfl

/-- A directory that was made sure of is there. -/
theorem resolve_of_prepareDirectory (wellFormed : session.files.WellFormed)
    (ran : prepareDirectory path session = (.ok (), after)) :
    path.hasNull = false ∧
      ∃ place, after.files.resolve after.working path = .present place .directory := by
  rw [prepareDirectory_run, ended_inj] at ran
  obtain ⟨succeeded, rfl⟩ := ran
  rcases made : FileTree.ensureDirectories session.working path session.files with
    ⟨other | done, files⟩
  · simp [made] at succeeded
  · refine ⟨?_, FileTree.resolve_of_ensureDirectories wellFormed made⟩
    cases null : path.hasNull with
    | false => rfl
    | true => simp [FileTree.ensureDirectories_unnamed null] at made

/-- A directory that was made sure of is found where the files have only grown. -/
theorem prepareDirectory_repeats (wellFormed : session.files.WellFormed)
    (ran : prepareDirectory path session = (.ok (), after))
    (grows : after.files.Grows twin.files) (working : twin.working = session.working) :
    prepareDirectory path twin = (.ok (), twin.note [.prepared path]) := by
  obtain ⟨named, place, present⟩ := resolve_of_prepareDirectory wellFormed ran
  obtain ⟨node, still, isDirectory⟩ := grows.resolve present
  obtain rfl := node.eq_directory_of_isDirectory isDirectory
  rw [(prepareDirectory_writes wellFormed ran).working, ← working] at still
  exact prepareDirectory_present named still

/-- Making sure of a directory that failed fails again without a change. -/
theorem prepareDirectory_again (wellFormed : session.files.WellFormed)
    (ran : prepareDirectory path session = (.error fault, after))
    (files : twin.files = after.files) (working : twin.working = session.working) :
    ∃ first second, fault = .file first ∧ first.Recurs path second ∧
      prepareDirectory path twin = (.error (.file second), twin.note [.prepared path]) := by
  rw [prepareDirectory_run, ended_inj] at ran
  obtain ⟨failed, rfl⟩ := ran
  rcases made : FileTree.ensureDirectories session.working path session.files with
    ⟨first | done, left⟩
  · rw [made] at failed files
    obtain ⟨second, again, recurs⟩ := FileTree.ensureDirectories_again wellFormed made
    refine ⟨first, second, (Except.error.inj failed).symm, recurs, ?_⟩
    have same : twin.files = left := files
    rw [prepareDirectory_run, working, same, again, ← same]
    rfl
  · simp [made] at failed

/-- A file that could not be written cannot be written again where nothing has changed. -/
theorem storeFile_again_fault (ran : storeFile path content session = (.error fault, after))
    (files : twin.files = session.files) (working : twin.working = session.working) :
    storeFile path content twin = (.error fault, twin.note [.stored path]) := by
  rw [storeFile_run, ended_inj] at ran
  obtain ⟨failed, _⟩ := ran
  rcases FileTree.writeFile_run session.working path content session.files with
    ⟨reason, unwritten⟩ | ⟨_, place, _, written⟩
  · rw [unwritten] at failed
    rw [storeFile_run, working, files, unwritten, ← files]
    exact congrArg (·, twin.note [.stored path]) failed
  · simp [written] at failed

/-- A file that was written can be written again. -/
theorem storeFile_again (leads : session.files.LeadsToFile session.working path) :
    storeFile path content session =
      (.ok (), { session.note [.stored path] with
        files := session.files.put (FileTree.locate session.working path) (.file content) }) := by
  rw [storeFile_run, leads.writeFile content]
  rfl

end Action

end Multitarget
