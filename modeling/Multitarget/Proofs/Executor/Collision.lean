import Multitarget.Proofs.Executor.SavedTree

/-!
# Artifacts of one path

Different names of artifacts can spell one path: backslashes count as slashes, and doubled
slashes and single points count for nothing. Saving such artifacts succeeds and gives their
path once for each, but of what they hold only the last is there afterwards.
-/

namespace Multitarget.Artifacts

variable {output : FilePath} {session after : Session}

/-- The parts of an artifact's path below the output directory. -/
def partsOf (artifact : String) : List String := (FilePath.ofText (withSlashes artifact)).parts

/-- The path that an artifact's parts spell below the output directory. -/
def pathBelow (output : FilePath) (artifact : String) : FilePath :=
  ⟨output.root, output.parts ++ partsOf artifact⟩

theorem eq_pathBelow_of_resolve {path : FilePath} {artifact : String}
    (resolved : resolve output artifact = some path) : path = pathBelow output artifact := by
  simp only [resolve] at resolved
  split at resolved
  next => simp at resolved
  next => exact (Option.some.inj resolved).symm

/-- Artifacts have one path exactly if they have the same parts. -/
theorem pathBelow_inj {artifact another : String} :
    pathBelow output artifact = pathBelow output another ↔
      partsOf artifact = partsOf another := by
  simp [pathBelow]

/-- The paths of some artifacts are distinct exactly if their parts are. -/
theorem nodup_pathBelow (artifacts : List String) :
    (artifacts.map (pathBelow output)).Nodup ↔ (artifacts.map partsOf).Nodup := by
  simp only [List.Nodup, List.pairwise_map, ne_eq, pathBelow_inj]

/-- Artifacts that were saved were resolved for their paths. -/
theorem storeClasses_resolved {files : Keyed Text.Bytes} {written : List FilePath}
    (wellFormed : session.files.WellFormed)
    (ran : storeClasses files output session = (.ok written, after)) :
    written = files.keys.map (pathBelow output) ∧
      ∀ entry ∈ files.entries, resolve output entry.1 = some (pathBelow output entry.1) := by
  have paths := (storeClasses_builds wellFormed ran).1
  have resolved : ∀ entry ∈ files.entries,
      resolve output entry.1 = some (pathBelow output entry.1) := by
    intro entry present
    have listed : resolve output entry.1 ∈ written.map some := paths ▸ List.mem_map_of_mem present
    obtain ⟨path, _, same⟩ := List.mem_map.mp listed
    rw [← same, eq_pathBelow_of_resolve same.symm]
  refine ⟨(List.map_inj_right fun _ _ => Option.some.inj).mp ?_, resolved⟩
  rw [← paths, Keyed.keys, List.map_map, List.map_map]
  exact List.map_congr_left resolved

/-- The last content for a path is that of an artifact of the path. -/
theorem mem_of_lastContent {entries : List (String × Text.Bytes)} {path : FilePath}
    {content : Text.Bytes} (last : lastContent output entries path = some content) :
    ∃ entry ∈ entries, resolve output entry.1 = some path ∧ entry.2 = content := by
  obtain ⟨entry, final, rfl⟩ := Option.map_eq_some_iff.mp last
  have listed := List.mem_of_getLast? final
  obtain ⟨present, resolved⟩ := List.mem_filter.mp listed
  exact ⟨entry, present, of_decide_eq_true resolved, rfl⟩

/-- Saving gives one path for each artifact, in order. They are distinct exactly if no two
artifacts spell the same parts; each can be read and holds the last artifact of its path; and
every artifact can be read back exactly if those of one path hold the same. -/
theorem storeClasses_keeps_last (files : Keyed Text.Bytes) (output : FilePath)
    {written : List FilePath} (wellFormed : session.files.WellFormed)
    (ran : storeClasses files output session = (.ok written, after)) :
    written = files.keys.map (pathBelow output) ∧
    (written.Nodup ↔ (files.keys.map partsOf).Nodup) ∧
    (∀ artifact ∈ files.keys, ∃ content,
      lastContent output files.entries (pathBelow output artifact) = some content ∧
      Action.readFile (pathBelow output artifact) after = (.ok content, after)) ∧
    ((∀ entry ∈ files.entries,
        Action.readFile (pathBelow output entry.1) after = (.ok entry.2, after)) ↔
      ∀ first ∈ files.entries, ∀ second ∈ files.entries,
        partsOf first.1 = partsOf second.1 → first.2 = second.2) := by
  obtain ⟨paths, resolved⟩ := storeClasses_resolved wellFormed ran
  obtain ⟨writes, leads⟩ := storeClasses_writes wellFormed ran
  have held := (saved_of_writes writes leads).held
  have reads : ∀ entry ∈ files.entries, ∃ content,
      lastContent output files.entries (pathBelow output entry.1) = some content ∧
      Action.readFile (pathBelow output entry.1) after = (.ok content, after) := by
    intro entry present
    obtain ⟨path, content, same, last, read⟩ := held entry.1 (List.mem_map_of_mem present)
    obtain rfl := eq_pathBelow_of_resolve same
    exact ⟨content, last, read⟩
  refine ⟨paths, paths ▸ nodup_pathBelow files.keys, ?_, ?_, ?_⟩
  · intro artifact named
    obtain ⟨entry, present, rfl⟩ := List.mem_map.mp named
    exact reads entry present
  · intro kept first inside second present same
    have one := kept first inside
    rw [pathBelow_inj.mpr same, kept second present, ended_inj, Except.ok.injEq] at one
    exact one.1.symm
  · intro agree entry present
    obtain ⟨content, last, read⟩ := reads entry present
    obtain ⟨other, inside, sharing, rfl⟩ := mem_of_lastContent last
    have same : partsOf other.1 = partsOf entry.1 :=
      pathBelow_inj.mp (eq_pathBelow_of_resolve sharing).symm
    rw [read, agree other inside entry present same]

/-- Two artifacts whose names differ by a doubled slash. -/
def doubled : Keyed Text.Bytes :=
  .ofList [("app/A.class", [1]), ("app//A.class", [2])]

/-- Both artifacts are saved to one path, and the first of them is lost. -/
theorem storeClasses_keeps_last_doubled :
    ∃ written after, Session.fresh.files.WellFormed ∧
      storeClasses doubled ⟨"", ["out"]⟩ Session.fresh = (.ok written, after) ∧
      written = [⟨"", ["out", "app", "A.class"]⟩, ⟨"", ["out", "app", "A.class"]⟩] ∧
      Action.readFile ⟨"", ["out", "app", "A.class"]⟩ after = (.ok [2], after) := by
  have succeeds :
      (storeClasses doubled ⟨"", ["out"]⟩ Session.fresh).1.toOption.isSome = true := by
    decide +kernel
  rcases ran : storeClasses doubled ⟨"", ["out"]⟩ Session.fresh with ⟨fault | written, after⟩
  · simp [ran, Except.toOption] at succeeds
  · obtain ⟨paths, -, reads, -⟩ :=
      storeClasses_keeps_last doubled ⟨"", ["out"]⟩ Executor.wellFormed_fresh ran
    obtain ⟨content, last, read⟩ := reads "app/A.class" (by decide)
    obtain rfl : content = [2] := Option.some.inj (last.symm.trans (by decide +kernel))
    exact ⟨written, after, Executor.wellFormed_fresh, rfl, paths.trans (by decide +kernel), read⟩

end Multitarget.Artifacts
