import Multitarget.Domain.Diagnostics

/-!
# Merging diagnostics

Diagnostics are made of their names in order and of the list under each name. Merging puts the
new names of the second side behind the names of the first, and under every name the list of the
second side behind that of the first. So the laws of merging are laws of lists, one for the names
and one for what stands under a name.
-/

namespace Multitarget

namespace Keyed

variable {α : Type}

/-! ## What is found under a name -/

theorem find_eq_none_iff {name : String} {entries : List (String × α)} :
    find name entries = none ↔ name ∉ entries.map Prod.fst := by
  induction entries with
  | nil => simp [find]
  | cons entry rest ih =>
      obtain ⟨key, value⟩ := entry
      by_cases same : key = name
      · simp [find, same]
      · have other : name ≠ key := fun equal => same equal.symm
        simp [find, same, other, ih]

theorem find_place (name other : String) (change : Option α → α) (entries : List (String × α)) :
    find other (place name change entries) =
      if name = other then some (change (find other entries)) else find other entries := by
  induction entries with
  | nil => rfl
  | cons entry rest ih =>
      obtain ⟨key, value⟩ := entry
      by_cases here : key = name
      · subst here
        by_cases same : key = other <;> simp [place, find, same]
      · by_cases same : key = other
        · subst same
          have apart : name ≠ key := fun equal => here equal.symm
          simp [place, find, here, apart]
        · simp [place, here, find, same, ih]

theorem find_filter (name : String) (test : String → Bool) (entries : List (String × α)) :
    find name (entries.filter fun entry => test entry.1) =
      if test name then find name entries else none := by
  induction entries with
  | nil => simp [find]
  | cons entry rest ih =>
      obtain ⟨key, value⟩ := entry
      by_cases same : key = name
      · subst same
        cases kept : test key <;> simp_all [find]
      · cases kept : test key <;> simp [find, kept, same, ih]

/-- Entries with distinct names are made of their names and of what is found under each. -/
theorem entries_eq_of_find {left right : List (String × α)}
    (names : left.map Prod.fst = right.map Prod.fst) (distinct : (left.map Prod.fst).Nodup)
    (values : ∀ name ∈ left.map Prod.fst, find name left = find name right) : left = right := by
  induction left generalizing right with
  | nil => exact (List.map_eq_nil_iff.mp names.symm).symm
  | cons entry rest ih =>
      obtain ⟨key, value⟩ := entry
      obtain ⟨⟨other, held⟩, others, rfl, rfl, behind⟩ := List.map_eq_cons_iff.mp names.symm
      obtain ⟨absent, apart⟩ := List.nodup_cons.mp distinct
      have first : value = held := by simpa [find] using values other List.mem_cons_self
      have later : rest = others := by
        refine ih behind.symm apart fun name listed => ?_
        have passed : other ≠ name := fun equal => absent (equal ▸ listed)
        simpa [find, passed] using values name (List.mem_cons_of_mem _ listed)
      rw [first, later]

/-! ## All values -/

/-- Putting a list behind the one of a name puts its items among all. -/
theorem flatten_place_perm (name : String) (added : List α) (entries : List (String × List α)) :
    ((place name (fun present => present.getD [] ++ added) entries).map Prod.snd).flatten.Perm
      ((entries.map Prod.snd).flatten ++ added) := by
  induction entries with
  | nil => simp [place]
  | cons entry rest ih =>
      obtain ⟨key, items⟩ := entry
      by_cases same : key = name
      · simp only [place, same, if_true, List.map_cons, List.flatten_cons, Option.getD_some,
          List.append_assoc]
        exact List.perm_append_comm.append_left items
      · simp only [place, same, if_false, List.map_cons, List.flatten_cons, List.append_assoc]
        exact ih.append_left items

end Keyed

namespace Diagnostics

/-- What stands under a name. -/
def under (diagnostics : Diagnostics) (name : String) : List Diagnostic :=
  (diagnostics.byFile.get? name).getD []

/-- Diagnostics with the same names in the same order and the same list under each are equal. -/
theorem eq_of_under {left right : Diagnostics} (names : left.byFile.keys = right.byFile.keys)
    (lists : ∀ name, left.under name = right.under name) : left = right := by
  have found (diagnostics : Diagnostics) {name : String} (listed : name ∈ diagnostics.byFile.keys) :
      Keyed.find name diagnostics.byFile.entries = some (diagnostics.under name) := by
    obtain ⟨list, held⟩ :=
      Option.ne_none_iff_exists'.mp fun missing => Keyed.find_eq_none_iff.mp missing listed
    rw [under, Keyed.get?, held, Option.getD_some]
  have same := Keyed.entries_eq_of_find names left.byFile.nodup fun name listed => by
    rw [found left listed, found right (names ▸ listed), lists name]
  cases left
  cases right
  exact congrArg Diagnostics.mk (Keyed.ext same)

variable (first second third diagnostics : Diagnostics) (name : String)

/-! ## Names and lists of the results -/

@[simp] theorem keys_empty : empty.byFile.keys = [] := rfl

@[simp] theorem under_empty : empty.under name = [] := rfl

@[simp] theorem keys_restrictedTo (names : List String) :
    (diagnostics.restrictedTo names).byFile.keys =
      diagnostics.byFile.keys.filter fun key => names.contains key := by
  simp [restrictedTo, Keyed.keys, List.filter_map, Function.comp_def]

@[simp] theorem under_restrictedTo (names : List String) :
    (diagnostics.restrictedTo names).under name =
      if names.contains name then diagnostics.under name else [] := by
  rw [under, Keyed.get?, restrictedTo, Keyed.entries_filterKeys, Keyed.find_filter]
  split <;> rfl

/-- The names of the first side stay in front, and the new ones of the second follow. -/
@[simp] theorem keys_mergedWith :
    (first.mergedWith second).byFile.keys =
      first.byFile.keys ++
        second.byFile.keys.filter fun key => !first.byFile.keys.contains key := by
  obtain ⟨⟨entries, nodup⟩⟩ := second
  simp only [mergedWith]
  change _ = _ ++ (entries.map Prod.fst).filter _
  generalize first.byFile = merged
  induction entries generalizing merged with
  | nil => simp
  | cons entry rest ih =>
      obtain ⟨key, list⟩ := entry
      obtain ⟨absent, apart⟩ := List.nodup_cons.mp nodup
      rw [List.foldl_cons, ih apart]
      have names := Keyed.keys_place key (fun present => present.getD [] ++ list) merged.entries
      by_cases present : key ∈ merged.keys
      · have kept : (merged.alter key fun present => present.getD [] ++ list).keys =
            merged.keys := names.trans (if_pos present)
        simp [kept, present]
      · have added : (merged.alter key fun present => present.getD [] ++ list).keys =
            merged.keys ++ [key] := names.trans (if_neg present)
        -- The added name does not come again, so it takes none of the others away.
        have others : ((rest.map Prod.fst).filter fun other =>
              !(merged.keys ++ [key]).contains other) =
            (rest.map Prod.fst).filter fun other => !merged.keys.contains other :=
          List.filter_congr fun other listed => by
            have distinct : other ≠ key := fun equal => absent (equal ▸ listed)
            simp [distinct]
        rw [added, others]
        simp [present]

theorem mem_keys_mergedWith :
    name ∈ (first.mergedWith second).byFile.keys ↔
      name ∈ first.byFile.keys ∨ name ∈ second.byFile.keys := by
  by_cases present : name ∈ first.byFile.keys <;> simp [present]

/-- Under each name the list of the second side follows that of the first. -/
@[simp] theorem under_mergedWith :
    (first.mergedWith second).under name = first.under name ++ second.under name := by
  obtain ⟨⟨entries, nodup⟩⟩ := second
  simp only [mergedWith, under, Keyed.get?]
  generalize first.byFile = merged
  induction entries generalizing merged with
  | nil => simp [Keyed.find]
  | cons entry rest ih =>
      obtain ⟨key, list⟩ := entry
      obtain ⟨absent, apart⟩ := List.nodup_cons.mp nodup
      rw [List.foldl_cons, ih apart]
      simp only [Keyed.alter, Keyed.find_place, Keyed.find]
      by_cases same : key = name
      · have missing : Keyed.find name rest = none :=
          Keyed.find_eq_none_iff.mpr fun listed => absent (same ▸ listed)
        simp [same, missing]
      · simp [same]

/-- Merging keeps every diagnostic of both sides once. -/
theorem all_mergedWith_perm :
    (first.mergedWith second).all.Perm (first.all ++ second.all) := by
  obtain ⟨⟨entries, nodup⟩⟩ := second
  simp only [mergedWith, all, Keyed.values]
  -- The map that is merged into changes with every entry, and distinct names play no part.
  clear nodup
  generalize first.byFile = merged
  induction entries generalizing merged with
  | nil => simp
  | cons entry rest ih =>
      rw [List.foldl_cons, List.map_cons, List.flatten_cons, ← List.append_assoc]
      exact (ih _).trans
        ((Keyed.flatten_place_perm entry.1 entry.2 merged.entries).append_right _)

/-! ## Laws -/

theorem mergedWith_assoc :
    (first.mergedWith second).mergedWith third = first.mergedWith (second.mergedWith third) := by
  apply eq_of_under
  · simp only [keys_mergedWith, List.append_assoc, List.filter_append, List.filter_filter]
    congr 2
    -- What of the third side is new to the first two together is new to each of them.
    apply List.filter_congr
    intro key listed
    by_cases inFirst : key ∈ first.byFile.keys <;> by_cases inSecond : key ∈ second.byFile.keys <;>
      simp [inFirst, inSecond]
  · intro name
    simp only [under_mergedWith, List.append_assoc]

theorem empty_mergedWith : empty.mergedWith diagnostics = diagnostics :=
  eq_of_under (by simp) (by simp)

theorem mergedWith_empty : diagnostics.mergedWith empty = diagnostics := rfl

theorem restrictedTo_mergedWith (names : List String) :
    (first.mergedWith second).restrictedTo names =
      (first.restrictedTo names).mergedWith (second.restrictedTo names) := by
  apply eq_of_under
  · simp only [keys_mergedWith, keys_restrictedTo, List.filter_append, List.filter_filter]
    congr 1
    apply List.filter_congr
    intro key listed
    by_cases named : key ∈ names <;> simp [named]
  · intro name
    simp only [under_mergedWith, under_restrictedTo]
    split <;> simp

theorem count_mergedWith (severity : Option Severity) :
    (first.mergedWith second).count severity = first.count severity + second.count severity := by
  have kept := first.all_mergedWith_perm second
  cases severity with
  | none => simpa [count] using kept.length_eq
  | some severity =>
      simpa [count] using kept.countP_eq fun diagnostic => diagnostic.severity == severity

/-- Diagnostics form a monoid under merging, names and lists in their order, with no diagnostics
as its unit; keeping some names is a homomorphism of it, and so is counting, of one severity or
of all. -/
theorem mergedWith_monoid (names : List String) (severity : Option Severity) :
    (first.mergedWith second).mergedWith third = first.mergedWith (second.mergedWith third) ∧
    empty.mergedWith first = first ∧ first.mergedWith empty = first ∧
    (first.mergedWith second).restrictedTo names =
      (first.restrictedTo names).mergedWith (second.restrictedTo names) ∧
    (first.mergedWith second).count severity = first.count severity + second.count severity :=
  ⟨first.mergedWith_assoc second third, first.empty_mergedWith, first.mergedWith_empty,
    first.restrictedTo_mergedWith second names, first.count_mergedWith second severity⟩

end Diagnostics

end Multitarget
