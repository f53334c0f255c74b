import Multitarget.Session.Basic

/-!
# The version in effect

One version is in effect for a whole session. Setting it again to the same value
changes nothing, and to another value is refused.
-/

namespace Multitarget.VersionState

/-- Puts a version into effect. -/
def set (version : Version) : Action Version := do
  match (← get).version with
  | none =>
    Action.log .debug "version_set" [("version", .text version.compiler),
      ("stdlib_version", .text version.library)]
    modify fun session => { session with version := some version }
    return version
  | some present =>
    if present = version then return version
    Action.failLogged (.versionAlreadySet ("Version already set to " ++ present.compiler))

/-- The version in effect. -/
def current : Action (Option Version) := return (← get).version

/-- Forgets the version in effect. -/
def reset : Action Unit := modify fun session => { session with version := none }

end Multitarget.VersionState
