/-!
# Runs of letters

A case mapping is a list of stretches of characters that all lie at one distance from their
counterparts.
-/

namespace Multitarget.Text

/-- Every `step`-th code point from `first` to `last` has its counterpart at a fixed distance. -/
structure CaseRun where
  /-- The first code point. -/
  first : Nat
  /-- The last code point. -/
  last : Nat
  /-- The distance between code points of the run. -/
  step : Nat
  /-- The distance to the counterpart. -/
  shift : Int

/-- Whether a code point belongs to the run. -/
def CaseRun.contains (run : CaseRun) (code : Nat) : Bool :=
  decide (run.first ≤ code) && decide (code ≤ run.last) && (code - run.first) % run.step == 0

/-- The counterpart of a character by the first run it belongs to; any other character stays. -/
def mapCase (runs : List CaseRun) (character : Char) : Char :=
  match runs.find? fun run => run.contains character.toNat with
  | some run => Char.ofNat (character.toNat + run.shift).toNat
  | none => character

end Multitarget.Text
