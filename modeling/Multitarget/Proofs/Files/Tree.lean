import Multitarget.Files.Tree

/-!
# Well-formed trees

In a tree of files every entry stands in a directory. Following a path in such a
tree leads to the location that its parts spell, and a path that leads to an entry
still does when the tree has only grown.
-/

namespace Multitarget

/-- Whether an entry is a directory. -/
def FileNode.isDirectory : FileNode → Bool
  | .directory => true
  | .file _ => false

theorem FileNode.eq_directory_of_isDirectory (node : FileNode)
    (directory : node.isDirectory = true) : node = .directory := by
  cases node with
  | directory => rfl
  | file content => simp [isDirectory] at directory

namespace FileTree

/-- Every entry stands in a directory. -/
def WellFormed (tree : FileTree) : Prop :=
  ∀ location name, tree.get? (location ++ [name]) ≠ none → tree.get? location = some .directory

/-- The content of the file at a location, if there is one. -/
def contentAt (tree : FileTree) (location : Location) : Option Text.Bytes :=
  match tree.get? location with
  | some (.file content) => some content
  | _ => none

theorem contentAt_eq_some {tree : FileTree} {location : Location} {content : Text.Bytes} :
    tree.contentAt location = some content ↔ tree.get? location = some (.file content) := by
  simp only [contentAt]
  split
  · rename_i found
    simp [found]
  · rename_i other
    simpa using other content

theorem wellFormed_empty : empty.WellFormed := by
  intro location name present
  simp [get?, empty, find] at present

namespace WellFormed

variable {tree : FileTree}

/-- All that leads to an entry is a directory. -/
theorem above (wellFormed : tree.WellFormed) {location below : Location}
    (present : tree.get? (location ++ below) ≠ none) (proper : below ≠ []) :
    tree.get? location = some .directory := by
  induction below generalizing location with
  | nil => exact absurd rfl proper
  | cons name rest ih =>
      apply wellFormed location name
      by_cases last : rest = []
      · simpa [last] using present
      · have next : tree.get? (location ++ [name]) = some .directory :=
          ih (by simpa using present) last
        simp [next]

theorem dropLast (wellFormed : tree.WellFormed) {location : Location} {node : FileNode}
    (found : tree.get? location = some node) :
    tree.get? location.dropLast = some .directory := by
  rcases List.eq_nil_or_concat location with rfl | ⟨parent, name, rfl⟩
  · rfl
  · rw [List.concat_eq_append] at found ⊢
    have present : tree.get? (parent ++ [name]) ≠ none := by simp [found]
    simpa using wellFormed parent name present

/-- A tree stays well-formed when an entry is put into a directory, unless it takes the place of
a directory. -/
theorem put (wellFormed : tree.WellFormed) {location : Location} {node : FileNode}
    (inside : tree.get? location.dropLast = some .directory)
    (free : tree.get? location ≠ some .directory) : (tree.put location node).WellFormed := by
  have proper : location ≠ [] := fun root => free (by simp [root])
  intro parent name present
  rw [get?_put] at present ⊢
  by_cases root : parent = []
  · simp [root]
  · have child : parent ++ [name] ≠ [] := by simp
    have isDirectory : tree.get? parent = some .directory := by
      by_cases here : parent ++ [name] = location
      · rw [← here] at inside
        simpa using inside
      · simp only [child, here, if_false] at present
        exact wellFormed parent name present
    have apart : parent ≠ location := fun same => free (same ▸ isDirectory)
    simpa [root, apart] using isDirectory

end WellFormed

/-! ## Taking away what was put -/

theorem find_ne_none_of_mem {location : Location} {node : FileNode}
    {entries : List (Location × FileNode)} (present : (location, node) ∈ entries) :
    find location entries ≠ none := by
  induction entries with
  | nil => simp at present
  | cons entry rest ih =>
      obtain ⟨other, old⟩ := entry
      by_cases here : other = location
      · simp [find, here]
      · have later : (location, node) ∈ rest := by
          rcases List.mem_cons.mp present with same | later
          · exact absurd (congrArg Prod.fst same).symm here
          · exact later
        simpa [find, here] using ih later

theorem place_of_find_eq_none {location : Location} (node : FileNode)
    {entries : List (Location × FileNode)} (missing : find location entries = none) :
    place location node entries = entries ++ [(location, node)] := by
  induction entries with
  | nil => rfl
  | cons entry rest ih =>
      obtain ⟨other, old⟩ := entry
      by_cases here : other = location
      · simp [find, here] at missing
      · simp only [find, here, if_false] at missing
        simp [place, here, ih missing]

/-- Taking away an entry that was put where there was none gives the tree before. -/
theorem remove_put {tree : FileTree} (wellFormed : tree.WellFormed) {location : Location}
    (node : FileNode) (missing : tree.get? location = none) :
    (tree.put location node).remove location = tree := by
  have proper : location ≠ [] := fun root => by simp [root] at missing
  have unfound : find location tree.entries = none := by simpa [get?, proper] using missing
  have outside : ∀ entry ∈ tree.entries, (!isWithin location entry.1) = true := by
    intro entry present
    simp only [Bool.not_eq_true', Bool.eq_false_iff]
    intro within
    obtain ⟨below, spelled⟩ := List.isPrefixOf_iff_prefix.mp within
    have found : tree.get? (location ++ below) ≠ none := by
      rw [spelled]
      by_cases root : entry.1 = []
      · simp [root]
      · have listed : (entry.1, entry.2) ∈ tree.entries := present
        simpa [get?, root] using find_ne_none_of_mem listed
    by_cases same : below = []
    · exact found (by simpa [same] using missing)
    · simp [wellFormed.above found same] at missing
  have itself : isWithin location location = true := by simp [isWithin]
  simp only [remove, put, place_of_find_eq_none node unfound, List.filter_append,
    List.filter_eq_self.mpr outside]
  simp [itself]

/-! ## Following paths -/

/-- Where a path leads, whether or not there is an entry. -/
def Target.place? : Target → Option Location
  | .present location _ => some location
  | .absent location => some location
  | .blocked _ => none

/-- One part of a path further. -/
def descend (location : Location) (part : String) : Location :=
  if part = ".." then location.dropLast else location ++ [part]

/-- What the parts of a path lead to from an entry, step by step. The paths that lead nowhere are
left out. -/
inductive Leads (tree : FileTree) : Location → FileNode → List String → Target → Prop where
  | here (location : Location) (node : FileNode) :
      Leads tree location node [] (.present location node)
  | up {location : Location} {rest : List String} {target : Target} :
      Leads tree location.dropLast .directory rest target →
      Leads tree location .directory (".." :: rest) target
  | down {location : Location} {part : String} {rest : List String} {child : FileNode}
      {target : Target} :
      part ≠ ".." → (Text.Utf8.encode part).length ≤ nameLimit →
      tree.get? (location ++ [part]) = some child →
      Leads tree (location ++ [part]) child rest target →
      Leads tree location .directory (part :: rest) target
  | missing {location : Location} {part : String} :
      part ≠ ".." → (Text.Utf8.encode part).length ≤ nameLimit →
      tree.get? (location ++ [part]) = none →
      Leads tree location .directory [part] (.absent (location ++ [part]))

theorem leads_of_follow {tree : FileTree} {location place : Location} {node : FileNode}
    {parts : List String} (reached : (tree.follow location node parts).place? = some place) :
    Leads tree location node parts (tree.follow location node parts) := by
  induction parts generalizing location node with
  | nil => exact .here location node
  | cons part rest ih =>
      cases node with
      | file content => simp [follow, Target.place?] at reached
      | directory =>
          simp only [follow] at reached ⊢
          split at reached
          next up =>
            subst up
            exact .up (ih reached)
          next other =>
            rw [if_neg other]
            split at reached
            next tooLong => simp [Target.place?] at reached
            next short =>
              have fits := Nat.le_of_not_lt short
              rw [if_neg short]
              split at reached
              next child found => exact .down other fits found (ih reached)
              next absent =>
                split at reached
                next last =>
                  subst last
                  exact .missing other fits absent
                next further => simp [Target.place?] at reached

theorem Leads.follow_eq {tree : FileTree} {location : Location} {node : FileNode}
    {parts : List String} {target : Target} (leads : Leads tree location node parts target) :
    tree.follow location node parts = target := by
  induction leads with
  | here => rfl
  | up _ ih => simpa [follow] using ih
  | down other fits found _ ih => simpa [follow, other, Nat.not_lt.mpr fits, found] using ih
  | missing other fits absent => simp [follow, other, Nat.not_lt.mpr fits, absent]

/-- A path leads where its parts spell. -/
theorem Leads.place?_eq {tree : FileTree} {location : Location} {node : FileNode}
    {parts : List String} {target : Target} (leads : Leads tree location node parts target) :
    target.place? = some (parts.foldl descend location) := by
  induction leads with
  | here => rfl
  | up _ ih => simpa [descend] using ih
  | down other _ _ _ ih => simpa [descend, other] using ih
  | missing other _ _ => simp [descend, other, Target.place?]

/-- Whether a target tells what the tree holds: the entry itself, or that there is none but a
directory above. -/
def Holds (tree : FileTree) : Target → Prop
  | .present location node => tree.get? location = some node
  | .absent location =>
      tree.get? location = none ∧ tree.get? location.dropLast = some .directory
  | .blocked _ => True

theorem Leads.holds {tree : FileTree} (wellFormed : tree.WellFormed) {location : Location}
    {node : FileNode} {parts : List String} {target : Target}
    (leads : Leads tree location node parts target) (start : tree.get? location = some node) :
    tree.Holds target := by
  induction leads with
  | here => exact start
  | up _ ih => exact ih (wellFormed.dropLast start)
  | down _ _ found _ ih => exact ih found
  | missing _ _ absent => exact ⟨absent, by simpa using start⟩

/-- A path that led to nothing leads to what is put there. -/
theorem Leads.put {tree : FileTree} {location place : Location} {node entry : FileNode}
    {parts : List String} (leads : Leads tree location node parts (.absent place))
    (free : tree.get? place = none) :
    Leads (tree.put place entry) location node parts (.present place entry) := by
  generalize reached : Target.absent place = target at leads
  induction leads with
  | here => simp at reached
  | up _ ih => exact .up (ih reached)
  | @down location part rest child target other fits found _ ih =>
      have apart : location ++ [part] ≠ place := by
        intro same
        simp [same, free] at found
      refine .down other fits ?_ (ih reached)
      simpa [get?_put, apart] using found
  | @missing location part other fits _ =>
      simp only [Target.absent.injEq] at reached
      subst reached
      exact .down other fits (by simp [get?_put]) (.here _ _)

/-! ## Growing trees -/

/-- Every entry is kept, and stays a directory or a file; files may have new content. -/
def Grows (before after : FileTree) : Prop :=
  ∀ location node, before.get? location = some node →
    ∃ later, after.get? location = some later ∧ later.isDirectory = node.isDirectory

namespace Grows

variable {first second third : FileTree}

theorem refl (tree : FileTree) : tree.Grows tree :=
  fun _ node found => ⟨node, found, rfl⟩

theorem trans (former : first.Grows second) (latter : second.Grows third) :
    first.Grows third := by
  intro location node found
  obtain ⟨middle, there, sameKind⟩ := former location node found
  obtain ⟨last, thereLast, sameLast⟩ := latter location middle there
  exact ⟨last, thereLast, sameLast.trans sameKind⟩

/-- A path that leads to an entry still does. -/
theorem leads (grows : first.Grows second) {location place : Location} {node found : FileNode}
    {parts : List String} (path : Leads first location node parts (.present place found))
    {later : FileNode} (sameKind : later.isDirectory = node.isDirectory) :
    ∃ reached, Leads second location later parts (.present place reached) ∧
      reached.isDirectory = found.isDirectory := by
  generalize target : Target.present place found = goal at path
  induction path generalizing later with
  | here location node =>
      simp only [Target.present.injEq] at target
      obtain ⟨rfl, rfl⟩ := target
      exact ⟨later, .here _ _, sameKind⟩
  | up _ ih =>
      obtain rfl := later.eq_directory_of_isDirectory sameKind
      obtain ⟨reached, further, kind⟩ := ih rfl target
      exact ⟨reached, .up further, kind⟩
  | down other fits inside _ ih =>
      obtain rfl := later.eq_directory_of_isDirectory sameKind
      obtain ⟨next, present, kept⟩ := grows _ _ inside
      obtain ⟨reached, further, kind⟩ := ih kept target
      exact ⟨reached, .down other fits present further, kind⟩
  | missing => simp at target

end Grows

/-! ## Paths of a tree -/

/-- Where a path starts. -/
def start (working : Location) (path : FilePath) : Location :=
  if path.isAbsolute then [] else working

theorem locate_eq (working : Location) (path : FilePath) :
    locate working path = path.parts.foldl descend (start working path) := rfl

/-- A path that is short enough is followed from the entry where it starts. -/
theorem resolve_eq_follow {tree : FileTree} {working : Location} {path : FilePath}
    {node : FileNode} (short : (Text.Utf8.encode path.text).length ≤ pathLimit)
    (found : tree.get? (start working path) = some node) :
    tree.resolve working path = tree.follow (start working path) node path.parts := by
  simp only [resolve, Nat.not_lt.mpr short, if_false]
  by_cases absolute : path.isAbsolute
  · simp only [start, absolute, if_true, get?_root, Option.some.injEq] at found
    subst found
    simp [absolute, start]
  · simp only [start, absolute, Bool.false_eq_true, if_false] at found
    simp [absolute, start, found]

/-- A path leads somewhere only if it is short enough and its parts do. -/
theorem leads_of_resolve {tree : FileTree} {working : Location} {path : FilePath}
    {target : Target} (resolved : tree.resolve working path = target) {place : Location}
    (reached : target.place? = some place) :
    (Text.Utf8.encode path.text).length ≤ pathLimit ∧
      ∃ node, tree.get? (start working path) = some node ∧
        Leads tree (start working path) node path.parts target := by
  have short : (Text.Utf8.encode path.text).length ≤ pathLimit := by
    refine Nat.le_of_not_lt fun long => ?_
    simp only [resolve, long, if_true] at resolved
    simp [← resolved, Target.place?] at reached
  refine ⟨short, ?_⟩
  have begins : ∃ node, tree.get? (start working path) = some node := by
    by_cases absolute : path.isAbsolute
    · exact ⟨.directory, by simp [start, absolute]⟩
    · cases found : tree.get? working with
      | some node => exact ⟨node, by simpa [start, absolute] using found⟩
      | none =>
          simp only [resolve, Nat.not_lt.mpr short, absolute, found] at resolved
          simp [← resolved, Target.place?] at reached
  obtain ⟨node, found⟩ := begins
  have followed := (resolve_eq_follow short found).symm.trans resolved
  refine ⟨node, found, ?_⟩
  rw [← followed] at reached ⊢
  exact leads_of_follow reached

/-- A path leads to its own location. -/
theorem place?_resolve {tree : FileTree} {working place : Location} {path : FilePath}
    (reached : (tree.resolve working path).place? = some place) :
    place = locate working path := by
  obtain ⟨_, _, _, leads⟩ := leads_of_resolve rfl reached
  exact Option.some.inj (reached.symm.trans leads.place?_eq)

/-- What a path leads to is what the tree holds. -/
theorem holds_resolve {tree : FileTree} (wellFormed : tree.WellFormed) (working : Location)
    (path : FilePath) : tree.Holds (tree.resolve working path) := by
  cases reached : (tree.resolve working path).place? with
  | none =>
      cases resolved : tree.resolve working path with
      | blocked => trivial
      | present | absent => simp [resolved, Target.place?] at reached
  | some place =>
      obtain ⟨_, _, found, leads⟩ := leads_of_resolve rfl reached
      exact leads.holds wellFormed found

theorem holds_of_resolve {tree : FileTree} (wellFormed : tree.WellFormed) {working : Location}
    {path : FilePath} {target : Target} (resolved : tree.resolve working path = target) :
    tree.Holds target :=
  resolved ▸ holds_resolve wellFormed working path

/-- A path that led to nothing leads to what is put there. -/
theorem resolve_put {tree : FileTree} (wellFormed : tree.WellFormed) {working place : Location}
    {path : FilePath} (entry : FileNode) (resolved : tree.resolve working path = .absent place) :
    (tree.put place entry).resolve working path = .present place entry := by
  obtain ⟨short, node, found, leads⟩ := leads_of_resolve resolved rfl
  have missing : tree.get? place = none := (leads.holds wellFormed found).1
  have begins : (tree.put place entry).get? (start working path) = some node := by
    have apart : start working path ≠ place := by
      intro same
      simp [same, missing] at found
    by_cases root : start working path = []
    · simpa [root] using found
    · simpa [get?_put, root, apart] using found
  rw [resolve_eq_follow short begins]
  exact (leads.put missing).follow_eq

/-- A path that leads to an entry still does when the tree has grown. -/
theorem Grows.resolve {before after : FileTree} (grows : before.Grows after)
    {working place : Location} {path : FilePath} {node : FileNode}
    (resolved : before.resolve working path = .present place node) :
    ∃ later, after.resolve working path = .present place later ∧
      later.isDirectory = node.isDirectory := by
  obtain ⟨short, first, found, path⟩ := leads_of_resolve resolved rfl
  obtain ⟨next, begins, sameKind⟩ := grows _ _ found
  obtain ⟨later, leads, kept⟩ := grows.leads path sameKind
  exact ⟨later, (resolve_eq_follow short begins).trans leads.follow_eq, kept⟩

end FileTree

end Multitarget
