/-!
# Ordered maps

A map from names to values that remembers the order in which its names were
first put. Putting a name again replaces the value in its place. That no name
occurs twice is part of the type.
-/

namespace Multitarget

/-- A map from names to values in the order of the names' first insertion. -/
structure Keyed (α : Type) where
  /-- The entries in order. -/
  entries : List (String × α)
  /-- No name has two entries. -/
  nodup : (entries.map Prod.fst).Nodup

namespace Keyed

variable {α β : Type}

/-- Two maps with the same entries in the same order are equal. -/
theorem ext {left right : Keyed α} (same : left.entries = right.entries) : left = right := by
  cases left; cases right; simp_all

instance [DecidableEq α] : DecidableEq (Keyed α) := fun left right =>
  if same : left.entries = right.entries then .isTrue (ext same)
  else .isFalse fun equal => same (equal ▸ rfl)

instance [Repr α] : Repr (Keyed α) := ⟨fun map level => reprPrec map.entries level⟩

/-- The map without entries. -/
def empty : Keyed α := ⟨[], .nil⟩

instance : Inhabited (Keyed α) := ⟨empty⟩
instance : EmptyCollection (Keyed α) := ⟨empty⟩

/-- The names in order. -/
def keys (map : Keyed α) : List String := map.entries.map Prod.fst

/-- The values in the order of their names. -/
def values (map : Keyed α) : List α := map.entries.map Prod.snd

/-- The number of entries. -/
def size (map : Keyed α) : Nat := map.entries.length

/-- The value of a name in a list of entries. -/
def find (name : String) : List (String × α) → Option α
  | [] => none
  | (key, value) :: rest => if key = name then some value else find name rest

/-- The value of a name. -/
def get? (map : Keyed α) (name : String) : Option α := find name map.entries

/-- Entries with a name's value changed in its place, or put at the end. -/
def place (name : String) (change : Option α → α) : List (String × α) → List (String × α)
  | [] => [(name, change none)]
  | (key, value) :: rest =>
    if key = name then (key, change (some value)) :: rest
    else (key, value) :: place name change rest

theorem keys_place (name : String) (change : Option α → α) (entries : List (String × α)) :
    (place name change entries).map Prod.fst =
      if name ∈ entries.map Prod.fst then entries.map Prod.fst
      else entries.map Prod.fst ++ [name] := by
  induction entries with
  | nil => simp [place]
  | cons entry rest ih =>
    obtain ⟨key, value⟩ := entry
    by_cases same : key = name
    · simp [place, same]
    · have other : name ≠ key := fun equal => same equal.symm
      simp only [place, same, if_false, List.map_cons, ih, List.mem_cons, other, false_or]
      split <;> simp

/-- Changes the value of a name in its place; a new name goes to the end. -/
def alter (map : Keyed α) (name : String) (change : Option α → α) : Keyed α where
  entries := place name change map.entries
  nodup := by
    rw [keys_place]
    split
    · exact map.nodup
    · rename_i absent
      exact List.nodup_append.2 ⟨map.nodup, by simp, by
        intro key present other equal
        simp only [List.mem_singleton] at equal
        exact fun same => absent (equal ▸ same ▸ present)⟩

/-- Gives a name a value, in its place or at the end. -/
def insert (map : Keyed α) (name : String) (value : α) : Keyed α :=
  map.alter name fun _ => value

/-- The map of some entries: of a repeated name the last value counts, at the first place. -/
def ofList (entries : List (String × α)) : Keyed α :=
  entries.foldl (fun map entry => map.insert entry.1 entry.2) empty

/-- The map with every value changed. -/
def mapValues (map : Keyed α) (change : α → β) : Keyed β where
  entries := map.entries.map fun entry => (entry.1, change entry.2)
  nodup := by
    rw [List.map_map]
    exact map.nodup

/-- The entries whose name satisfies the test. -/
def filterKeys (map : Keyed α) (test : String → Bool) : Keyed α where
  entries := map.entries.filter fun entry => test entry.1
  nodup := map.nodup.sublist (List.Sublist.map _ List.filter_sublist)

@[simp] theorem entries_empty : (empty : Keyed α).entries = [] := rfl

@[simp] theorem entries_filterKeys (map : Keyed α) (test : String → Bool) :
    (map.filterKeys test).entries = map.entries.filter fun entry => test entry.1 := rfl

@[simp] theorem entries_mapValues (map : Keyed α) (change : α → β) :
    (map.mapValues change).entries = map.entries.map fun entry => (entry.1, change entry.2) := rfl

end Keyed

end Multitarget
