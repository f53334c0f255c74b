import Multitarget.Session.Basic

/-!
# Routing

Looking up the family that serves a target in a table of routes, and checking
that a table serves every target.
-/

namespace Multitarget.Routing

/-- The family that a table gives a target; a target without one is a failure. -/
def route (routes : Routes) (target : Target) : Action Family :=
  match routes.family? target with
  | some family => return family
  | none => Action.fail (.routing target.name)

/-- Refuses a table that does not serve every target. -/
def check (routes : Routes) : Action Unit :=
  match routes.missing with
  | [] => return
  | missing => Action.failLogged (.routing (", ".intercalate (missing.map Target.name)))

end Multitarget.Routing
