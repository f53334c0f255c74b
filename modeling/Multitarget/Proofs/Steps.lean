/-!
# Running steps

An action on a state ends in a value or a fault, in a state. The equations below
run actions one step after another; a run that ends in a value is one in which
every step did, and one that ends in a fault stops at the first step that did.
-/

namespace Multitarget

variable {ε σ α β : Type}

@[simp] theorem ended_inj {ending other : Except ε α} {state final : σ} :
    @Eq (Id (Except ε α × σ)) (ending, state) (other, final) ↔
      ending = other ∧ state = final :=
  Iff.of_eq (Prod.mk.injEq ending state other final)

@[simp] theorem mapError_ok {φ : Type} (change : ε → φ) (value : α) :
    (.ok value : Except ε α).mapError change = .ok value := rfl

@[simp] theorem mapError_error {φ : Type} (change : ε → φ) (fault : ε) :
    (.error fault : Except ε α).mapError change = .error (change fault) := rfl

/-- Endings one behind the other come to a value only through a value of the first. -/
theorem ok_of_bind {first : Except ε α} {next : α → Except ε β} {result : β}
    (came : first >>= next = .ok result) :
    ∃ value, first = .ok value ∧ next value = .ok result := by
  cases first with
  | error fault => cases came
  | ok value => exact ⟨value, rfl, came⟩

theorem bind_eq_ok_iff {first : Except ε α} {next : α → Except ε β} {result : β} :
    first >>= next = .ok result ↔ ∃ value, first = .ok value ∧ next value = .ok result := by
  constructor
  · exact ok_of_bind
  · rintro ⟨value, rfl, came⟩
    exact came

/-- Endings one behind the other come to the fault of the first, or to one behind its value. -/
theorem bind_eq_error_iff {first : Except ε α} {next : α → Except ε β} {fault : ε} :
    first >>= next = .error fault ↔
      first = .error fault ∨ ∃ value, first = .ok value ∧ next value = .error fault := by
  cases first with
  | error other =>
      have stopped : (Except.error other : Except ε α) >>= next = .error other := rfl
      simp [stopped]
  | ok value =>
      have passed : (Except.ok value : Except ε α) >>= next = next value := rfl
      simp [passed]

theorem ok_of_toOption {ending : Except ε α} {value : α} (came : ending.toOption = some value) :
    ending = .ok value := by
  cases ending with
  | error fault => cases came
  | ok other => exact congrArg Except.ok (Option.some.inj came)

/-- Whether an ending is a given fault; values need not be compared for that. -/
def failsWith [DecidableEq ε] (ending : Except ε α) (fault : ε) : Bool :=
  match ending with
  | .ok _ => false
  | .error other => decide (other = fault)

theorem of_failsWith [DecidableEq ε] {ending : Except ε α} {fault : ε}
    (fails : failsWith ending fault = true) : ending = .error fault := by
  cases ending with
  | ok value => cases fails
  | error other => exact congrArg Except.error (of_decide_eq_true fails)

@[simp] theorem pure_run (value : α) (state : σ) :
    (pure value : ExceptT ε (StateM σ) α) state = (.ok value, state) := rfl

@[simp] theorem throw_run (fault : ε) (state : σ) :
    (throw fault : ExceptT ε (StateM σ) α) state = (.error fault, state) := rfl

@[simp] theorem get_run (state : σ) :
    (get : ExceptT ε (StateM σ) σ) state = (.ok state, state) := rfl

@[simp] theorem modify_run (change : σ → σ) (state : σ) :
    (modify change : ExceptT ε (StateM σ) Unit) state = (.ok (), change state) := rfl

theorem bind_run (first : ExceptT ε (StateM σ) α) (next : α → ExceptT ε (StateM σ) β)
    (state : σ) :
    (first >>= next) state =
      match first state with
      | (.ok value, after) => next value after
      | (.error fault, after) => (.error fault, after) := by
  change (match first state with
    | (ending, after) => ExceptT.bindCont next ending after) = _
  rcases first state with ⟨fault | value, after⟩ <;> rfl

theorem bind_of_ok {first : ExceptT ε (StateM σ) α} {next : α → ExceptT ε (StateM σ) β}
    {state after : σ} {value : α} (ran : first state = (.ok value, after)) :
    (first >>= next) state = next value after := by
  rw [bind_run, ran]

theorem bind_of_error {first : ExceptT ε (StateM σ) α} {next : α → ExceptT ε (StateM σ) β}
    {state after : σ} {fault : ε} (ran : first state = (.error fault, after)) :
    (first >>= next) state = (.error fault, after) := by
  rw [bind_run, ran]

/-- A run that ends in a value passes through a value of its first step. -/
theorem bind_eq_ok {first : ExceptT ε (StateM σ) α} {next : α → ExceptT ε (StateM σ) β}
    {state final : σ} {result : β} (ran : (first >>= next) state = (.ok result, final)) :
    ∃ value after, first state = (.ok value, after) ∧
      next value after = (.ok result, final) := by
  rcases begun : first state with ⟨fault | value, after⟩
  · rw [bind_of_error begun] at ran
    simp at ran
  · exact ⟨value, after, rfl, (bind_of_ok begun).symm.trans ran⟩

/-- A run that ends in a fault ends with its first step or passes through a value of it. -/
theorem bind_eq_error {first : ExceptT ε (StateM σ) α} {next : α → ExceptT ε (StateM σ) β}
    {state final : σ} {fault : ε} (ran : (first >>= next) state = (.error fault, final)) :
    first state = (.error fault, final) ∨ ∃ value after, first state = (.ok value, after) ∧
      next value after = (.error fault, final) := by
  rcases begun : first state with ⟨other | value, after⟩
  · rw [bind_of_error begun, ended_inj] at ran
    obtain ⟨same, rfl⟩ := ran
    obtain rfl := Except.error.inj same
    exact .inl rfl
  · exact .inr ⟨value, after, rfl, (bind_of_ok begun).symm.trans ran⟩

/-- What each step of a run does to the state, the run does, however it ends. -/
theorem bind_related {related : σ → σ → Prop} {first : ExceptT ε (StateM σ) α}
    {next : α → ExceptT ε (StateM σ) β} {state : σ}
    (trans : ∀ {before between after}, related before between → related between after →
      related before after)
    (begun : related state (first state).2)
    (continued : ∀ value after, first state = (.ok value, after) → related state after →
      related after (next value after).2) :
    related state ((first >>= next) state).2 := by
  rcases ran : first state with ⟨fault | value, after⟩
  · rw [bind_of_error ran]
    rwa [ran] at begun
  · rw [bind_of_ok ran]
    rw [ran] at begun
    exact trans begun (continued value after ran begun)

theorem map_run (change : α → β) (action : ExceptT ε (StateM σ) α) (state : σ) :
    (change <$> action) state = ((action state).1.map change, (action state).2) := by
  rw [← bind_pure_comp, bind_run]
  rcases action state with ⟨fault | value, after⟩ <;> rfl

end Multitarget
