import Multitarget.Proofs.Session.Trace
import Multitarget.Session.VersionState

/-!
# The first version stays

The version in effect is written once. Setting a version takes effect where none was set
before, and where another one was, it is refused and that one stays.
-/

namespace Multitarget

/-- The fault that a version in effect is to setting another one. -/
def Version.alreadySet (present : Version) : Fault :=
  .failure (.versionAlreadySet ("Version already set to " ++ present.compiler))

namespace Session

/-- Whether a version may be put into effect: unless another one is. -/
def accept (session : Session) (version : Version) : Except Fault Unit :=
  match session.version with
  | none => .ok ()
  | some present => if present = version then .ok () else .error present.alreadySet

/-- A session with some more events, and with a version in effect unless one was before. -/
def settled (session : Session) (version : Version) (events : List Event) : Session :=
  { session.note events with version := session.version.or (some version) }

variable {session : Session} {version present : Version}

@[simp] theorem version_settled (session : Session) (version : Version) (events : List Event) :
    (session.settled version events).version = session.version.or (some version) := rfl

theorem accept_of_none (unset : session.version = none) : session.accept version = .ok () := by
  simp [accept, unset]

theorem accept_of_eq (inEffect : session.version = some version) :
    session.accept version = .ok () := by
  simp [accept, inEffect]

theorem accept_of_ne (inEffect : session.version = some present) (differs : version ≠ present) :
    session.accept version = .error present.alreadySet := by
  simp [accept, inEffect, differs.symm]

/-- Only the version in effect decides whether another one is accepted. -/
theorem accept_congr {other : Session} (same : other.version = session.version)
    (version : Version) : other.accept version = session.accept version := by
  rw [accept, accept, same]

/-- A version that is accepted is in effect from then on. -/
theorem version_of_accept (accepted : session.accept version = .ok ()) :
    session.version.or (some version) = some version := by
  unfold accept at accepted
  cases inEffect : session.version with
  | none => rfl
  | some present =>
      simp only [inEffect] at accepted
      split at accepted
      next same => rw [same, Option.some_or]
      next differs => nomatch accepted

theorem settled_of_some (inEffect : session.version = some present) (version : Version)
    (events : List Event) : session.settled version events = session.note events := by
  rw [settled, inEffect, Option.some_or, ← inEffect]
  rfl

theorem settled_of_none (unset : session.version = none) (version : Version)
    (events : List Event) :
    session.settled version events = { session.note events with version := some version } := by
  rw [settled, unset, Option.none_or]

@[simp] theorem settled_note (session : Session) (version : Version) (events more : List Event) :
    (session.note events).settled version more = session.settled version (events ++ more) := by
  simp [settled, note]

@[simp] theorem note_settled (session : Session) (version : Version) (events more : List Event) :
    (session.settled version events).note more = session.settled version (events ++ more) := by
  simp [settled, note]

end Session

namespace VersionState

/-- A version takes effect unless another one has, which stays. -/
theorem set_run (version : Version) (session : Session) :
    ∃ events, set version session =
      ((session.accept version).map fun _ => version, session.settled version events) := by
  unfold set
  rw [bind_of_ok (get_run session)]
  cases inEffect : session.version with
  | none =>
      simp only [Session.accept_of_none inEffect, Session.settled_of_none inEffect]
      exact ⟨[.logged ⟨.debug, "version_set", [("version", .text version.compiler),
        ("stdlib_version", .text version.library)]⟩], rfl⟩
  | some present =>
      simp only [Session.settled_of_some inEffect]
      by_cases same : present = version
      · subst same
        rw [Session.accept_of_eq inEffect]
        exact ⟨[], by simp [Except.map]⟩
      · obtain ⟨events, refused, _⟩ := @Action.makes_failLogged Version
          (.versionAlreadySet ("Version already set to " ++ present.compiler))
        rw [Session.accept_of_ne inEffect (Ne.symm same)]
        refine ⟨events, ?_⟩
        simp only [if_neg same]
        exact refused session

/-- What follows a version that is set comes to the same in every session that accepts it. -/
theorem set_bind_run {α : Type} (version : Version) (next : Version → Action α)
    {ending : Except Fault α} {events : List Event}
    (continued : (next version).Yields ending events) (session : Session) :
    ∃ more, (set version >>= next) session =
      (session.accept version >>= fun _ => ending, session.settled version more) := by
  obtain ⟨former, written⟩ := set_run version session
  cases accepted : session.accept version with
  | error fault =>
      rw [accepted] at written
      exact ⟨former, bind_of_error written⟩
  | ok _ =>
      rw [accepted] at written
      refine ⟨former ++ events, (bind_of_ok written).trans ?_⟩
      rw [continued, Session.note_settled]
      rfl

end VersionState

end Multitarget
