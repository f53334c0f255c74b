import Multitarget.Executor.Lookup
import Multitarget.Proofs.Session.Trace

/-!
# Following references

A reference leads to what is reached from its module by its attributes, one after another. Where
it leads to nothing, either the import of the module is at fault or a missing attribute is. A
missing attribute is always reported as a failure, so what else can pass comes from the import.
-/

namespace Multitarget

/-- The record of a failure in the log. -/
def Failure.noted (failure : Failure) : Event :=
  .logged ⟨.error, "kompile_error",
    [("error_type", .text failure.kind), ("user_message", .text failure.message)]⟩

theorem Action.yields_failLogged {α : Type} (failure : Failure) :
    (failLogged failure : Action α).Yields (.error (.failure failure)) [failure.noted] :=
  (yields_log _ _ _).bind_ok (yields_throw _)

namespace Lookup

variable {Thing : Type} {lookup : Lookup Thing} {reference : String} {error : LookupError}

/-! ## Attributes -/

/-- Whether names lead from one thing to another, each as the name of an attribute of the thing
that was reached before. -/
inductive Reaches (lookup : Lookup Thing) : Thing → List String → Thing → Prop where
  | here {thing : Thing} : lookup.Reaches thing [] thing
  | through {thing next last : Thing} {name : String} {rest : List String}
      (known : lookup.attribute? thing name = some next) (further : lookup.Reaches next rest last) :
      lookup.Reaches thing (name :: rest) last

variable {thing last : Thing} {names : List String}

theorem follow_eq_ok_iff :
    lookup.follow thing names = .ok last ↔ lookup.Reaches thing names last := by
  constructor
  · intro followed
    induction names generalizing thing with
    | nil =>
        obtain rfl := Except.ok.inj followed
        exact .here
    | cons name rest ih =>
        rw [follow] at followed
        split at followed
        next next known => exact .through known (ih followed)
        next => cases followed
  · intro reaches
    induction reaches with
    | here => rfl
    | through known further ih =>
        rw [follow, known]
        exact ih

/-- Only a missing attribute stops following names. -/
theorem noAttribute_of_follow (stopped : lookup.follow thing names = .error error) :
    ∃ name ∈ names, error = .noAttribute name := by
  induction names generalizing thing with
  | nil => cases stopped
  | cons name rest ih =>
      rw [follow] at stopped
      split at stopped
      next next known =>
        obtain ⟨missing, listed, same⟩ := ih stopped
        exact ⟨missing, List.mem_cons_of_mem _ listed, same⟩
      next => exact ⟨name, List.mem_cons_self, (Except.error.inj stopped).symm⟩

/-- Nothing is reached by a name that no thing has an attribute of. -/
theorem Reaches.attribute_of_mem (reaches : lookup.Reaches thing names last) {name : String}
    (listed : name ∈ names) : ∃ holder, lookup.attribute? holder name ≠ none := by
  induction reaches with
  | here => cases listed
  | @through holder next _ _ _ known _ ih =>
      rcases List.mem_cons.mp listed with rfl | later
      · exact ⟨holder, by simp [known]⟩
      · exact ih later

/-! ## References -/

theorem resolve_eq_bind (lookup : Lookup Thing) (reference : String) :
    lookup.resolve reference =
      (lookup.importModule (Reference.split reference).1 >>= fun root =>
        lookup.follow root (Reference.attributeNames (Reference.split reference).2)) := rfl

/-- What a reference resolves to is reached from its module by its attributes. -/
theorem resolve_eq_ok_iff :
    lookup.resolve reference = .ok thing ↔
      ∃ root, lookup.importModule (Reference.split reference).1 = .ok root ∧
        lookup.Reaches root (Reference.attributeNames (Reference.split reference).2) thing := by
  rw [resolve_eq_bind, bind_eq_ok_iff]
  simp only [follow_eq_ok_iff]

/-- What passes of following a reference is how the import of its module ends. -/
theorem importModule_of_uncaught {fault : Fault}
    (stopped : lookup.resolve reference = .error error) (passes : error.uncaught? = some fault) :
    lookup.importModule (Reference.split reference).1 = .error error := by
  rw [resolve_eq_bind] at stopped
  rcases bind_eq_error_iff.mp stopped with unimported | ⟨root, _, followed⟩
  · exact unimported
  · obtain ⟨name, _, rfl⟩ := noAttribute_of_follow followed
    cases passes

/-! ## Ends -/

theorem load_of_ok (field : Option String) (found : lookup.resolve reference = .ok thing) :
    lookup.load reference field = return thing := by
  rw [load, found]

theorem load_of_uncaught (field : Option String) {fault : Fault}
    (stopped : lookup.resolve reference = .error error) (passes : error.uncaught? = some fault) :
    lookup.load reference field = throw fault := by
  simp only [load, stopped, passes]

theorem load_of_caught (field : Option String)
    (stopped : lookup.resolve reference = .error error) (caught : error.uncaught? = none) :
    lookup.load reference field = Action.failLogged (.backendLoad reference field) := by
  simp only [load, stopped, caught]

/-- How following a reference ends. -/
def loaded (lookup : Lookup Thing) (reference : String) (field : Option String) :
    Except Fault Thing :=
  (lookup.resolve reference).mapError fun error =>
    error.uncaught?.getD (.failure (.backendLoad reference field))

theorem load_makes (lookup : Lookup Thing) (reference : String) (field : Option String) :
    (lookup.load reference field).Makes (lookup.loaded reference field) [] := by
  rw [loaded]
  cases resolved : lookup.resolve reference with
  | ok thing => exact (Action.makes_pure thing).of_eq (load_of_ok field resolved)
  | error error =>
      rw [mapError_error]
      cases known : error.uncaught? with
      | some fault =>
          exact (Action.makes_throw fault).of_eq (load_of_uncaught field resolved known)
      | none => exact (Action.makes_failLogged _).of_eq (load_of_caught field resolved known)

end Lookup

end Multitarget
