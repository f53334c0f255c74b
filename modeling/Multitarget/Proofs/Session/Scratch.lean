import Multitarget.Proofs.Files.Access
import Multitarget.Proofs.Session.Trace
import Multitarget.Session.Scratch

/-!
# Scratch contexts come and go

A context is handed out with a new directory and taken back with it. Around a
steady action nothing is left of it but events and the number that was used up.
-/

namespace Multitarget.Scratch

/-- The directory of the next context of a session. -/
def nextDirectory (source : ScratchSource) (session : Session) : FilePath :=
  (source.base.getD session.temporary).append ⟨"", [directoryName session.nextContext]⟩

/-- What is noted when a context is handed out. -/
def acquiredEvents (id : ContextId) : List Event :=
  [.opened id, .logged ⟨.debug, "environment_acquired", []⟩]

/-- What is noted when a context is taken back. -/
def releasedEvents (id : ContextId) : List Event :=
  [.released id, .logged ⟨.debug, "environment_released", []⟩]

/-- A session with a new context whose directory is at a place. -/
def opened (session : Session) (place : Location) : Session :=
  { session.note (acquiredEvents session.nextContext) with
    files := session.files.put place .directory
    nextContext := session.nextContext + 1 }

/-- A context is refused, and nothing changes, or it is handed out with a directory where there
was nothing. -/
theorem acquire_run (source : ScratchSource) (session : Session) :
    (∃ fault, acquire source session = (.error fault, session)) ∨
    ∃ place,
      session.files.resolve session.working (nextDirectory source session) = .absent place ∧
      acquire source session =
        (.ok ⟨session.nextContext, nextDirectory source session⟩, opened session place) := by
  unfold acquire
  cases refused : source.refusal with
  | some exception => exact .inl ⟨.raised exception, by simp [bind_run]⟩
  | none =>
      rcases FileTree.makeDirectory_run session.working (nextDirectory source session)
          session.files with ⟨fault, failed⟩ | ⟨place, resolved, made⟩
      · refine .inl ⟨.file fault, ?_⟩
        rw [nextDirectory] at failed
        simp [bind_run, failed]
      · refine .inr ⟨place, resolved, ?_⟩
        rw [nextDirectory] at made
        simp [bind_run, map_run, made, Except.map, opened, nextDirectory,
          acquiredEvents, Session.note]

/-- The files without the directory of a context. -/
def filesWithout (scratch : Scratch) (session : Session) : FileTree :=
  match session.files.resolve session.working scratch.directory with
  | .present location _ => session.files.remove location
  | _ => session.files

theorem release_run (scratch : Scratch) (session : Session) :
    release scratch session =
      (.ok (), { session.note (releasedEvents scratch.id) with
        files := filesWithout scratch session }) := by
  simp only [release, bind_run, Action.emit_run, modify_run, Action.log_run, filesWithout,
    Session.files_note, Session.working_note]
  cases session.files.resolve session.working scratch.directory <;>
    simp [Session.note, releasedEvents]

/-- An action inside a context ends as it does by itself, if there is a context for it. -/
theorem ending_within {α : Type} (source : ScratchSource) (body : ContextId → Action α)
    (session : Session) :
    (∃ fault, acquire source session = (.error fault, session) ∧
      within source body session = (.error fault, session)) ∨
    ∃ place,
      session.files.resolve session.working (nextDirectory source session) = .absent place ∧
      acquire source session =
        (.ok ⟨session.nextContext, nextDirectory source session⟩, opened session place) ∧
      within source body session =
        ((body session.nextContext (opened session place)).1,
          (release ⟨session.nextContext, nextDirectory source session⟩
            (body session.nextContext (opened session place)).2).2) := by
  unfold within
  rcases acquire_run source session with ⟨fault, refused⟩ | ⟨place, resolved, acquired⟩
  · exact .inl ⟨fault, refused, bind_of_error refused⟩
  · refine .inr ⟨place, resolved, acquired, ?_⟩
    rw [bind_of_ok acquired, Action.andFinally_run (release_run _ _), release_run]

/-- A session after a context was used for these events, with these files. -/
def passed (session : Session) (events : List Event) (files : FileTree) : Session :=
  { session.note (acquiredEvents session.nextContext ++ events ++
      releasedEvents session.nextContext) with
    files := files
    nextContext := session.nextContext + 1 }

end Scratch

/-- Between two sessions a context was used for these calls, and after that nothing was noted but
records of the log. The files of a well-formed tree are as before. -/
def Session.Uses (called : List Call) (before after : Session) : Prop :=
  ∃ inner outer files, after = (Scratch.passed before inner files).note outer ∧
    Trace.Inner called inner ∧ Trace.Inner [] outer ∧
    (before.files.WellFormed → files = before.files)

namespace Session.Uses

variable {called : List Call} {before after : Session}

theorem note (uses : before.Uses called after) {events : List Event}
    (inner : Trace.Inner [] events) : before.Uses called (after.note events) := by
  obtain ⟨first, later, files, rfl, calls, plain, kept⟩ := uses
  exact ⟨first, later ++ events, files, by simp, calls, plain.append inner, kept⟩

theorem passes (uses : before.Uses called after) (wellFormed : before.files.WellFormed) :
    before.Passes after := by
  obtain ⟨inner, outer, files, rfl, _, _, kept⟩ := uses
  obtain rfl := kept wellFormed
  exact Session.Passes.note ⟨_, before.nextContext + 1, rfl⟩ outer

end Session.Uses

/-- Around a steady action a context leaves nothing behind in a well-formed tree. -/
theorem Scratch.within_makes {α : Type} (source : ScratchSource) {body : ContextId → Action α}
    {session : Session} {ending : Except Fault α} {called : List Call}
    (made : (body session.nextContext).Makes ending called) :
    (∃ fault, acquire source session = (.error fault, session) ∧
      within source body session = (.error fault, session)) ∨
    (acquire source session).1.isOk = true ∧ ∃ after,
      within source body session = (ending, after) ∧ session.Uses called after := by
  rcases ending_within source body session with refused | ⟨place, resolved, acquired, ran⟩
  · exact .inl refused
  · right
    obtain ⟨events, yielded, inner⟩ := made
    rw [ran, yielded, release_run, acquired]
    refine ⟨rfl, _, rfl, events, [], filesWithout ⟨session.nextContext, nextDirectory source session⟩
      ((opened session place).note events), ?_, inner, .nil, fun wellFormed => ?_⟩
    · simp [passed, opened, Session.note]
    · -- The directory went where there was nothing, so without it the tree is the one before.
      have missing : session.files.get? place = none :=
        (FileTree.holds_of_resolve wellFormed resolved).1
      have there := FileTree.resolve_put wellFormed .directory resolved
      simp [filesWithout, opened, there, FileTree.remove_put wellFormed .directory missing]

end Multitarget
