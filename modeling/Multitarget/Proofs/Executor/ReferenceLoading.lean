import Multitarget.Proofs.Domain.Reference
import Multitarget.Proofs.Executor.References

/-!
# Loading what a configuration accepts

The pattern of references makes following them safe. A text that a configuration accepts names a
module, and not relative to none, so the import of that module comes to it or finds it missing; and
where points stand beside each other or at an end, the empty name between them is that of a missing
attribute. So what is accepted leads to a thing, or fails with the failure that tells the reference
and the field that holds it. The texts that escape this failure are the empty one and those that
start with a colon or a point.
-/

namespace Multitarget

/-! ## Accepted texts -/

namespace BackendReferences

/-- Whether a text is a reference of a configuration that some value is read as. -/
def Accepts (reference : String) : Prop :=
  ∃ value references field, check value = .valid references ∧
    (reference, field) ∈ references.listed

theorem isReference_of_listed {references : BackendReferences} (named : references.AreReferences)
    {reference field : String} (listed : (reference, field) ∈ references.listed) :
    Reference.isReference reference = true := by
  obtain ⟨jvm, js, wasm, completion, environment⟩ := named
  rw [BackendReferences.listed, List.mem_append] at listed
  rcases listed with first | others
  · obtain ⟨other, present, same⟩ := Option.map_eq_some_iff.mp (Option.mem_toList.mp first)
    obtain ⟨rfl, _⟩ := Prod.mk.inj same
    exact environment _ present
  · simp only [List.mem_cons, Prod.mk.injEq, List.not_mem_nil, or_false] at others
    rcases others with ⟨rfl, _⟩ | ⟨rfl, _⟩ | ⟨rfl, _⟩ | ⟨rfl, _⟩
    · exact jvm
    · exact js
    · exact wasm
    · exact completion

theorem accepts_iff {reference : String} :
    Accepts reference ↔ Reference.isReference reference = true := by
  constructor
  · rintro ⟨value, references, field, read, listed⟩
    exact isReference_of_listed (areReferences_of_check read) listed
  · intro named
    let references : BackendReferences := ⟨reference, reference, reference, reference, none⟩
    have read : check references.toDocument.toValue = .valid references :=
      check_toDocument ⟨named, named, named, named, nofun⟩
    exact ⟨_, references, "backends.jvm", read, List.mem_cons_self⟩

/-- What is accepted is what the pattern of references matches. -/
theorem accepts_iff_mem_language {reference : String} :
    Accepts reference ↔ reference.toList ∈ Reference.form.language :=
  accepts_iff.trans Reference.isReference_iff_mem_language

end BackendReferences

namespace Lookup

variable {Thing : Type} {lookup : Lookup Thing} {reference : String}

/-! ## What references lead to -/

/-- Whether a reference leads to a thing: its module can be imported, and its names lead from the
module to the thing, one attribute after another. -/
def Leads (lookup : Lookup Thing) (reference : String) (thing : Thing) : Prop :=
  ∃ moduleName names root, Reference.HasParts reference moduleName names ∧
    lookup.importModule moduleName = .ok root ∧ lookup.Reaches root names thing

/-- An import that fails for naming no module has the empty name, and one that fails for being
relative has a name that a point starts. Any other comes to its module or finds it missing. -/
structure ImportsByName (lookup : Lookup Thing) : Prop where
  named : ∀ name, lookup.importModule name = .error .emptyModule → name = ""
  absolute : ∀ name other, lookup.importModule name = .error (.relativeModule other) →
    name.toList.head? = some '.'

/-- Nothing passes of following a reference that names a module. -/
theorem uncaught?_of_namesModule (imports : lookup.ImportsByName)
    (named : Reference.NamesModule reference) {error : LookupError}
    (stopped : lookup.resolve reference = .error error) : error.uncaught? = none := by
  obtain ⟨present, absolute⟩ := Reference.namesModule_iff.mp named
  cases passes : error.uncaught? with
  | none => rfl
  | some fault =>
      -- A missing attribute never passes, so the import is at fault.
      have unimported := importModule_of_uncaught stopped passes
      cases error with
      | emptyModule => exact absurd (imports.named _ unimported) present
      | relativeModule other => exact absurd (imports.absolute _ _ unimported) absolute
      | noModule name => cases passes
      | noAttribute name => cases passes

end Lookup

/-! ## References in a registry -/

namespace Registry

variable {registry : Registry} {reference : String}

/-- A module that is named, and not relative to none, is there or missing. -/
theorem noModule_of_importModule {name : String} (named : name ≠ "")
    (absolute : name.toList.head? ≠ some '.') {error : LookupError}
    (unimported : registry.lookup.importModule name = .error error) : error = .noModule name := by
  rw [importModule_lookup registry named absolute] at unimported
  split at unimported
  next => cases unimported
  next => exact (Except.error.inj unimported).symm

theorem lookup_importsByName (registry : Registry) : registry.lookup.ImportsByName where
  named name unimported := by
    by_contra named
    by_cases relative : name.toList.head? = some '.'
    · rw [importModule_relative registry relative] at unimported
      cases unimported
    · cases noModule_of_importModule named relative unimported
  absolute name other unimported := by
    by_contra absolute
    by_cases unnamed : name = ""
    · rw [unnamed, importModule_empty] at unimported
      cases unimported
    · cases noModule_of_importModule unnamed absolute unimported

/-- Following a text escapes the failure that tells it exactly if the text names no module, or one
relative to none. -/
theorem load_escapes_iff {field : Option String} {session : Session} :
    (∃ fault, (registry.load reference field session).1 = .error fault ∧
      fault ≠ .failure (.backendLoad reference field)) ↔ ¬ Reference.NamesModule reference := by
  obtain ⟨events, yielded, _⟩ := registry.load_makes reference field
  rw [yielded session]
  constructor
  · rintro ⟨fault, ended, escapes⟩ named
    rw [← loaded_lookup, Lookup.loaded] at ended
    cases resolved : registry.lookup.resolve reference with
    | ok thing =>
        rw [resolved] at ended
        cases ended
    | error error =>
        rw [resolved, mapError_error, Lookup.uncaught?_of_namesModule registry.lookup_importsByName
          named resolved] at ended
        exact escapes (Except.error.inj ended).symm
  · intro nameless
    rw [Reference.namesModule_iff, not_and_or, not_not, not_not] at nameless
    rcases parts : Reference.split reference with ⟨moduleName, member⟩
    rw [parts] at nameless
    rw [loaded, parts]
    by_cases unnamed : moduleName = ""
    · exact ⟨.emptyModule, if_pos unnamed, by simp⟩
    · have relative := nameless.resolve_left unnamed
      exact ⟨.relativeModule moduleName, (if_neg unnamed).trans (if_pos relative), by simp⟩

end Registry

/-! ## Loading -/

namespace Lookup

variable {Thing : Type} {lookup : Lookup Thing} {reference : String}

/-- Where nothing has an attribute with the empty name, an accepted reference that ends with a point,
or has two of them beside each other in its member, fails with the failure that tells it. -/
theorem load_of_empty_name (imports : lookup.ImportsByName)
    (nameless : ∀ thing, lookup.attribute? thing "" = none)
    (accepted : BackendReferences.Accepts reference)
    (doubled : ['.', '.'] <:+: (Reference.split reference).2.toList ++ ['.'])
    (field : Option String) :
    (lookup.load reference field).Yields (.error (.failure (.backendLoad reference field)))
      [Failure.noted (.backendLoad reference field)] := by
  have named := BackendReferences.accepts_iff.mp accepted
  have empty : "" ∈ Reference.attributeNames (Reference.split reference).2 :=
    Reference.empty_mem_attributeNames_iff.mpr (List.infix_cons doubled)
  cases resolved : lookup.resolve reference with
  | ok thing =>
      obtain ⟨root, _, reaches⟩ := resolve_eq_ok_iff.mp resolved
      obtain ⟨holder, held⟩ := reaches.attribute_of_mem empty
      exact absurd (nameless holder) held
  | error error =>
      have caught := uncaught?_of_namesModule imports
        (Reference.namesModule_of_isReference named) resolved
      rw [load_of_caught field resolved caught]
      exact Action.yields_failLogged _

end Lookup

end Multitarget
