import Multitarget.Proofs.Executor.Saving
import Multitarget.Proofs.Session.Repetition

/-!
# Saving again

Saving the same artifacts again in the tree that saving them has left changes nothing,
however it ended. The artifacts that were written are written again, the last one of each
path last, and what failed fails again, in general with the same fault.
-/

namespace Multitarget

open FileTree (locate)

/-- How a fault recurs when what led to it is done again: it is the same, unless it comes from
making sure of one of these directories. -/
inductive Fault.Recurs (directories : FilePath → Prop) : Fault → Fault → Prop where
  | same (fault : Fault) : Recurs directories fault fault
  | directory {path : FilePath} {first second : FileFault} : directories path →
      first.Recurs path second → Recurs directories (.file first) (.file second)

namespace Artifacts

/-- The directories that saving makes sure of: the output directory, and those of its artifacts. -/
def Prepares (output directory : FilePath) : Prop :=
  directory = output ∨ ∃ artifact path, resolve output artifact = some path ∧
    directory = path.parent

variable {output : FilePath} {session after twin : Session} {fault : Fault}

/-! ## Artifacts that were written -/

/-- Whether an artifact's path leads to a file, below some directory. -/
def Stands (output : FilePath) (session : Session) (artifact : String) : Prop :=
  ∃ path, resolve output artifact = some path ∧ path.parts ≠ [] ∧
    session.files.LeadsToFile session.working path

theorem Stands.of_leads {place : Location} {artifact : String} {path : FilePath}
    (directory : session.files.resolve session.working output = .present place .directory)
    (resolved : resolve output artifact = some path)
    (leads : session.files.LeadsToFile session.working path) : Stands output session artifact := by
  refine ⟨path, resolved, fun none => ?_, leads⟩
  -- A path without parts would be the output directory.
  obtain ⟨below, _, rfl⟩ := parts_of_resolve resolved
  obtain ⟨_, content, file⟩ := leads
  obtain ⟨nothing, rfl⟩ := List.append_eq_nil_iff.mp none
  rw [List.append_nil, directory] at file
  simp at file

theorem Stands.grows {artifact : String} (stands : Stands output session artifact)
    (grows : session.files.Grows twin.files) (working : twin.working = session.working) :
    Stands output twin artifact := by
  obtain ⟨path, resolved, proper, leads⟩ := stands
  refine ⟨path, resolved, proper, ?_⟩
  rw [working]
  exact leads.grows grows

/-- An artifact that stands is written again. -/
theorem storeOne_again {entry : String × Text.Bytes} (stands : Stands output session entry.1) :
    ∃ path events, resolve output entry.1 = some path ∧
      session.files.LeadsToFile session.working path ∧
      storeOne output entry session = (.ok path, { session.note events with
        files := session.files.put (locate session.working path) (.file entry.2) }) := by
  obtain ⟨path, resolved, proper, leads⟩ := stands
  obtain ⟨named, place, present⟩ := leads.parent proper
  refine ⟨path, [.prepared path.parent, .stored path], resolved, leads, ?_⟩
  have stored := @Action.storeFile_again (session.note [.prepared path.parent]) path entry.2 leads
  rw [storeOne, resolved]
  simp only
  rw [bind_of_ok (Action.prepareDirectory_present named present), bind_of_ok stored]
  simp [Session.note]

/-- Artifacts that stand are written again, which puts their files where they are. -/
theorem storeAll_again {entries : List (String × Text.Bytes)}
    (wellFormed : session.files.WellFormed)
    (stand : ∀ entry ∈ entries, Stands output session entry.1) :
    ∃ written events, storeAll output entries session = (.ok written, { session.note events with
      files := session.files.putAll (targets session.working output entries) }) := by
  induction entries generalizing session with
  | nil => exact ⟨[], [], by simp [storeAll, targets, FileTree.putAll]⟩
  | cons entry rest ih =>
      obtain ⟨stands, standRest⟩ := List.forall_mem_cons.mp stand
      obtain ⟨path, events, resolved, leads, ran⟩ := storeOne_again stands
      have written := FileTree.written_of_writeFile wellFormed (leads.writeFile entry.2)
      obtain ⟨others, later, ranRest⟩ := @ih { session.note events with
        files := session.files.put (locate session.working path) (.file entry.2) }
        written.wellFormed fun other listed => (standRest other listed).grows written.grows rfl
      refine ⟨path :: others, events ++ later, ?_⟩
      rw [storeAll_cons, bind_of_ok ran, bind_of_ok ranRest]
      simp [targets, resolved, FileTree.putAll, Session.note]

/-- Artifacts whose last contents are there are written again without a change of the files. -/
theorem storeAll_self {entries : List (String × Text.Bytes)}
    (wellFormed : session.files.WellFormed)
    (stand : ∀ entry ∈ entries, Stands output session entry.1)
    (held : ∀ location content,
      lastWrite (targets session.working output entries) location = some content →
      session.files.contentAt location = some content) :
    ∃ written events, storeAll output entries session = (.ok written, session.note events) := by
  obtain ⟨written, events, ran⟩ := storeAll_again wellFormed stand
  refine ⟨written, events, ?_⟩
  rw [ran, FileTree.putAll_self]
  · rfl
  · intro write listed
    obtain ⟨content, last⟩ := exists_lastWrite (List.mem_map_of_mem listed)
    rw [last]
    exact held write.1 content last

/-! ## Artifacts that were not written -/

/-- An artifact that could not be written cannot be written again, and nothing changes. -/
theorem storeOne_again_fault {entry : String × Text.Bytes} (twin : Session)
    (wellFormed : session.files.WellFormed)
    (ran : storeOne output entry session = (.error fault, after))
    (files : twin.files = after.files) (working : twin.working = session.working) :
    ∃ second events, storeOne output entry twin = (.error second, twin.note events) ∧
      fault.Recurs (Prepares output) second := by
  unfold storeOne at ran ⊢
  cases resolved : resolve output entry.1 with
  | none =>
      simp only [resolved, Action.fail, throw_run, ended_inj] at ran
      obtain ⟨same, _⟩ := ran
      obtain rfl := Except.error.inj same
      exact ⟨_, [], by simp [Action.fail], .same _⟩
  | some path =>
      simp only [resolved] at ran ⊢
      rcases bind_eq_error ran with made | ⟨_, prepared, made, putting⟩
      · obtain ⟨first, second, rfl, recurs, again⟩ :=
          Action.prepareDirectory_again wellFormed made files working
        exact ⟨_, _, bind_of_error again, .directory (.inr ⟨_, path, resolved, rfl⟩) recurs⟩
      · rcases bind_eq_error putting with put | ⟨_, _, _, returned⟩
        · -- The directory was made, and nothing has changed since.
          have kept : prepared.working = session.working :=
            (Action.prepareDirectory_writes wellFormed made).working
          have left : twin.files = prepared.files := by
            rw [files, Action.of_storeFile_fault put, Session.files_note]
          have found := Action.prepareDirectory_repeats wellFormed made (left ▸ .refl _) working
          have again := @Action.storeFile_again_fault _ _
            (twin.note [.prepared path.parent]) _ _ _ put left (working.trans kept.symm)
          refine ⟨_, [.prepared path.parent, .stored path], ?_, .same _⟩
          rw [bind_of_ok found, bind_of_error again, Session.note_note]
          rfl
        · simp at returned

theorem storeAll_append (output : FilePath) (first second : List (String × Text.Bytes)) :
    storeAll output (first ++ second) = (do
      let written ← storeAll output first
      let others ← storeAll output second
      return written ++ others) := by
  induction first with
  | nil => simp [storeAll]
  | cons entry rest ih => simp only [List.cons_append, storeAll_cons, ih, bind_assoc, pure_bind]

/-- What was written in a directory stands there as long as the files stay. -/
theorem stand_of_storeAll {place : Location} {entries : List (String × Text.Bytes)}
    {written : List FilePath} (wellFormed : session.files.WellFormed)
    (directory : session.files.resolve session.working output = .present place .directory)
    (ran : storeAll output entries session = (.ok written, after)) :
    ∀ entry ∈ entries, Stands output after entry.1 := by
  obtain ⟨writing, leads⟩ := storeAll_writes wellFormed ran
  intro entry listed
  obtain ⟨path, resolved, leading⟩ := leads entry listed
  obtain ⟨node, still, isDirectory⟩ := writing.grows.resolve directory
  obtain rfl := node.eq_directory_of_isDirectory isDirectory
  rw [← writing.working] at still
  exact .of_leads still resolved leading

/-- Artifacts that were written are written again without a change of the files. -/
theorem storeAll_repeats {place : Location} {entries : List (String × Text.Bytes)}
    {written : List FilePath} (twin : Session) (wellFormed : session.files.WellFormed)
    (directory : session.files.resolve session.working output = .present place .directory)
    (ran : storeAll output entries session = (.ok written, after))
    (grows : after.files.Grows twin.files) (stays : twin.files.WellFormed)
    (contentAt : ∀ location, twin.files.contentAt location = after.files.contentAt location)
    (working : twin.working = session.working) :
    ∃ others events, storeAll output entries twin = (.ok others, twin.note events) := by
  obtain ⟨writing, _⟩ := storeAll_writes wellFormed ran
  have stand := stand_of_storeAll wellFormed directory ran
  apply storeAll_self stays
  · exact fun entry listed => (stand entry listed).grows grows (working.trans writing.working.symm)
  · intro location content last
    rw [working] at last
    rw [contentAt, writing.contentAt, last, Option.some_or]

/-- Artifacts that could not all be written cannot be written again, and nothing changes. -/
theorem storeAll_again_fault {place : Location} {entries : List (String × Text.Bytes)}
    (twin : Session) (wellFormed : session.files.WellFormed)
    (directory : session.files.resolve session.working output = .present place .directory)
    (ran : storeAll output entries session = (.error fault, after))
    (files : twin.files = after.files) (working : twin.working = session.working) :
    ∃ second events, storeAll output entries twin = (.error second, twin.note events) ∧
      fault.Recurs (Prepares output) second := by
  obtain ⟨done, entry, rest, written, between, rfl, wrote, failed⟩ := storeAll_fault ran
  have writing := (storeAll_writes wellFormed wrote).1
  have last := storeOne_fault_writes writing.wellFormed failed
  obtain ⟨others, events, repeats⟩ := storeAll_repeats twin wellFormed directory wrote
    (files ▸ last.grows) (files ▸ last.wellFormed)
    (fun location => by rw [files, last.contentAt, lastWrite_nil, Option.none_or]) working
  obtain ⟨second, later, again, recurs⟩ := storeOne_again_fault (twin.note events)
    writing.wellFormed failed files (working.trans writing.working.symm)
  refine ⟨second, events ++ later, ?_, recurs⟩
  rw [storeAll_append, bind_of_ok repeats, storeAll_cons]
  simp [bind_run, again]

/-! ## Below a directory -/

/-- What was saved is saved again without a change of the files. -/
theorem storeBelow_again {entries : List (String × Text.Bytes)} {written : List FilePath}
    (wellFormed : session.files.WellFormed)
    (ran : storeBelow output entries session = (.ok written, after))
    (files : twin.files = after.files) (working : twin.working = session.working) :
    ∃ others events, storeBelow output entries twin = (.ok others, twin.note events) := by
  obtain ⟨_, prepared, made, wrote⟩ := bind_eq_ok ran
  have preparing := Action.prepareDirectory_writes wellFormed made
  obtain ⟨_, place, present⟩ := Action.resolve_of_prepareDirectory wellFormed made
  have writing := (storeAll_writes preparing.wellFormed wrote).1
  have found := Action.prepareDirectory_repeats wellFormed made (files ▸ writing.grows) working
  obtain ⟨others, events, repeats⟩ := storeAll_repeats (twin.note [.prepared output])
    preparing.wellFormed present wrote (files ▸ .refl _) (files ▸ writing.wellFormed)
    (fun location => by rw [Session.files_note, files]) (working.trans preparing.working.symm)
  refine ⟨others, .prepared output :: events, ?_⟩
  rw [storeBelow, bind_of_ok found, repeats, Session.note_note]
  rfl

/-- What could not all be saved cannot be saved again, and nothing changes. -/
theorem storeBelow_again_fault {entries : List (String × Text.Bytes)}
    (wellFormed : session.files.WellFormed)
    (ran : storeBelow output entries session = (.error fault, after))
    (files : twin.files = after.files) (working : twin.working = session.working) :
    ∃ second events, storeBelow output entries twin = (.error second, twin.note events) ∧
      fault.Recurs (Prepares output) second := by
  rcases bind_eq_error ran with made | ⟨_, prepared, made, storing⟩
  · obtain ⟨first, second, rfl, recurs, again⟩ :=
      Action.prepareDirectory_again wellFormed made files working
    exact ⟨_, _, bind_of_error again, .directory (.inl rfl) recurs⟩
  · have preparing := Action.prepareDirectory_writes wellFormed made
    obtain ⟨_, place, present⟩ := Action.resolve_of_prepareDirectory wellFormed made
    obtain ⟨_, _, writing⟩ := storeAll_fault_writes preparing.wellFormed storing
    have found := Action.prepareDirectory_repeats wellFormed made (files ▸ writing.grows) working
    obtain ⟨second, events, again, recurs⟩ :=
      storeAll_again_fault (twin.note [.prepared output]) preparing.wellFormed present storing
        files (working.trans preparing.working.symm)
    refine ⟨second, .prepared output :: events, ?_, recurs⟩
    rw [storeBelow, bind_of_ok found, again, Session.note_note]
    rfl

end Artifacts

end Multitarget
