import Mathlib.Data.List.Forall2
import Multitarget.Domain.Exception

/-!
# The chain behind an exception

Behind an exception stands its cause, or else the exception that was being handled when it was
raised, unless it was raised in place of that one. A description goes on to the exception being
handled in either case. So it never ends too early, and it goes on too long exactly if an
exception of the chain was raised in place of another.
-/

namespace Multitarget

namespace Exception

/-- An exception and those behind it: the cause of each, or else what was being handled, unless
that was suppressed. -/
def chain : Exception → List Exception
  | exception@(.mk _ _ (some cause) _ _) => exception :: chain cause
  | exception@(.mk _ _ none (some context) false) => exception :: chain context
  | exception@(.mk _ _ none (some _) true) => [exception]
  | exception@(.mk _ _ none none _) => [exception]

/-- An exception and those behind it, what was suppressed included. -/
def fullChain : Exception → List Exception
  | exception@(.mk _ _ (some cause) _ _) => exception :: fullChain cause
  | exception@(.mk _ _ none (some context) _) => exception :: fullChain context
  | exception@(.mk _ _ none none _) => [exception]

/-- Whether an exception was raised in place of the one being handled. -/
def supersedes : Exception → Bool
  | .mk _ _ none (some _) true => true
  | _ => false

theorem fullChain_ne_nil (exception : Exception) : exception.fullChain ≠ [] := by
  fun_cases fullChain exception <;> simp

theorem chain_prefix_fullChain (exception : Exception) :
    exception.chain <+: exception.fullChain := by
  fun_induction chain exception with
  | case1 name nature cause context suppressed ih => simpa [fullChain] using ih
  | case2 name nature context ih => simpa [fullChain] using ih
  | case3 name nature context => simp [fullChain]
  | case4 name nature suppressed => simp [fullChain]

/-- Nothing stands behind an exception beyond its chain exactly if none in it was raised in place
of another. -/
theorem chain_eq_fullChain_iff (exception : Exception) :
    exception.chain = exception.fullChain ↔
      ∀ other ∈ exception.chain, other.supersedes = false := by
  fun_induction chain exception with
  | case1 name nature cause context suppressed ih => simp [fullChain, supersedes, ih]
  | case2 name nature context ih => simp [fullChain, supersedes, ih]
  | case3 name nature context => simp [fullChain, supersedes, (fullChain_ne_nil context).symm]
  | case4 name nature suppressed => simp [fullChain, supersedes]

end Exception

namespace ExceptionDescription

/-- A description and those behind it. -/
def levels : ExceptionDescription → List ExceptionDescription
  | description@(.mk _ _ _ (some cause)) => description :: levels cause
  | description@(.mk _ _ _ none) => [description]

/-- Whether a description tells an exception by its qualified name and its text, and has no text
exactly if that is empty. -/
structure Tells (description : ExceptionDescription) (exception : Exception) : Prop where
  fullName : description.fullName = exception.qualifiedName
  text : ∀ text, description.message = some text → text = exception.text
  silent : description.message = none ↔ exception.text = ""

theorem fullName_ofException (exception : Exception) :
    (ofException exception).fullName = exception.qualifiedName := by
  fun_cases ofException exception <;> rfl

theorem message_ofException (exception : Exception) :
    (ofException exception).message =
      if exception.text = "" then none else some exception.text := by
  fun_cases ofException exception <;> rfl

theorem tells_ofException (exception : Exception) : (ofException exception).Tells exception where
  fullName := fullName_ofException exception
  text text told := by
    rw [message_ofException] at told
    split at told
    next => cases told
    next => exact (Option.some.inj told).symm
  silent := by simp [message_ofException]

/-- A description tells of all exceptions behind the one that it is made of. -/
theorem levels_ofException (exception : Exception) :
    List.Forall₂ Tells (ofException exception).levels exception.fullChain := by
  have first := tells_ofException exception
  fun_induction Exception.fullChain exception with
  | case1 name nature cause context suppressed ih =>
      rw [ofException] at first ⊢
      exact .cons first (ih (tells_ofException cause))
  | case2 name nature context suppressed ih =>
      rw [ofException] at first ⊢
      exact .cons first (ih (tells_ofException context))
  | case3 name nature suppressed =>
      rw [ofException] at first ⊢
      exact .cons first .nil

/-- A description tells of an exception and of all behind it, suppressed ones included. What stands
behind it comes first, and is all that the description tells of exactly if no exception of its
chain was raised in place of another. -/
theorem ofException_chain (exception : Exception) :
    List.Forall₂ Tells (ofException exception).levels exception.fullChain ∧
    exception.chain <+: exception.fullChain ∧
    (List.Forall₂ Tells (ofException exception).levels exception.chain ↔
      ∀ other ∈ exception.chain, other.supersedes = false) := by
  have told := levels_ofException exception
  have starts := exception.chain_prefix_fullChain
  have told_iff : List.Forall₂ Tells (ofException exception).levels exception.chain ↔
      exception.chain = exception.fullChain := by
    constructor
    · intro tells
      -- One description tells of both chains, so neither is longer.
      exact starts.eq_of_length (tells.length_eq.symm.trans told.length_eq)
    · intro whole
      exact whole ▸ told
  exact ⟨told, starts, told_iff.trans exception.chain_eq_fullChain_iff⟩

end ExceptionDescription

/-- An exception whose cause was raised in place of another. -/
def Exception.superseding : Exception :=
  .mk "builtins.RuntimeError" (.ordinary "unavailable")
    (some (.mk "builtins.ValueError" (.ordinary "bad state") none
      (some (.mk "builtins.KeyError" (.ordinary "'token'") none none false)) true)) none true

/-- The exception that was suppressed at the end of a chain is described nevertheless. -/
theorem ExceptionDescription.ofException_chain_superseding :
    Exception.superseding.chain.length = 2 ∧
    (ofException Exception.superseding).levels.length = 3 ∧
    ¬ List.Forall₂ Tells (ofException Exception.superseding).levels
      Exception.superseding.chain := by
  obtain ⟨told, _, whole⟩ := ofException_chain Exception.superseding
  refine ⟨rfl, told.length_eq, fun same => ?_⟩
  have last := whole.mp same _ (List.mem_cons_of_mem _ List.mem_cons_self)
  exact Bool.noConfusion last

end Multitarget
