import Multitarget.Json.Document
import Multitarget.Schema.Record

/-!
# Reading what was written

What a document holds is read back from it: lists item by item, maps entry by entry in
their order, and records field by field, if every member stands under the wire name of a
field.
-/

namespace Multitarget

/-! ## Maps in order -/

namespace Keyed

variable {α : Type}

theorem place_of_not_mem {name : String} (change : Option α → α) {entries : List (String × α)}
    (fresh : name ∉ entries.map Prod.fst) :
    place name change entries = entries ++ [(name, change none)] := by
  induction entries with
  | nil => rfl
  | cons entry rest ih =>
      obtain ⟨key, value⟩ := entry
      simp only [List.map_cons, List.mem_cons, not_or] at fresh
      have apart : key ≠ name := fun same => fresh.1 same.symm
      simp [place, apart, ih fresh.2]

/-- A map is the map of its entries, in their order. -/
theorem ofList_entries (map : Keyed α) : ofList map.entries = map := by
  -- Every entry has a new name, so it goes behind those before it.
  have appends : ∀ (rest : List (String × α)) (start : Keyed α),
      ((start.entries ++ rest).map Prod.fst).Nodup →
      (rest.foldl (fun map entry => map.insert entry.1 entry.2) start).entries =
        start.entries ++ rest := by
    intro rest
    induction rest with
    | nil => simp
    | cons entry rest ih =>
        intro start distinct
        have fresh : entry.1 ∉ start.entries.map Prod.fst := by
          intro present
          rw [List.map_append, List.nodup_append] at distinct
          exact distinct.2.2 _ present entry.1 (by simp) rfl
        have inserted : (start.insert entry.1 entry.2).entries = start.entries ++ [entry] :=
          place_of_not_mem _ fresh
        rw [List.foldl_cons, ih _ (by simpa [inserted] using distinct), inserted,
          List.append_assoc, List.singleton_append]
  exact ext (appends map.entries empty map.nodup)

theorem mapValues_id (map : Keyed α) : map.mapValues id = map :=
  ext (by simp)

end Keyed

namespace Schema

open Json (Document)
open Json.Document (toEntries toValues)

variable {α β : Type}

/-! ## Members -/

@[simp] theorem entry_toEntries_cons (name key : String) (item : Document)
    (rest : List (String × Document)) :
    entry name (toEntries ((key, item) :: rest)) =
      if key = name then some item.toValue else entry name (toEntries rest) := rfl

@[simp] theorem entry_toEntries_nil (name : String) :
    entry name (toEntries []) = none := rfl

@[simp] theorem required_toEntries (members : List (String × Document)) (field : Field)
    (check : Value → Checked α) :
    required (toEntries members) field check =
      match field.entry (toEntries members) with
      | some (name, value) => (check value).within (.name name)
      | none => .invalid [⟨[.name field.wire], .missing⟩] := by
  unfold required
  rcases field.entry (toEntries members) with _ | ⟨name, value⟩ <;> rfl

@[simp] theorem defaulted_toEntries (members : List (String × Document)) (field : Field)
    (default : α) (check : Value → Checked α) :
    defaulted (toEntries members) field default check =
      match field.entry (toEntries members) with
      | some (name, value) => (check value).within (.name name)
      | none => .valid default := by
  unfold defaulted
  rcases field.entry (toEntries members) with _ | ⟨name, value⟩ <;> rfl

@[simp] theorem field_entry_toEntries (members : List (String × Document)) (field : Field) :
    field.entry (toEntries members) =
      match entry field.wire (toEntries members) with
      | some value => some (field.wire, value)
      | none => (entry field.plain (toEntries members)).map fun value => (field.plain, value) := by
  unfold Field.entry
  cases entry field.wire (toEntries members) <;> rfl

theorem entry_toEntries_isSome {name : String} {members : List (String × Document)}
    (present : name ∈ members.map Prod.fst) :
    ∃ value, entry name (toEntries members) = some value := by
  induction members with
  | nil => simp at present
  | cons member rest ih =>
      obtain ⟨key, item⟩ := member
      rw [entry_toEntries_cons]
      by_cases here : key = name
      · exact ⟨item.toValue, if_pos here⟩
      · rw [if_neg here]
        rw [List.map_cons, List.mem_cons] at present
        exact ih (present.resolve_left fun same => here same.symm)

theorem mem_toEntries {member : Value × Value} {members : List (String × Document)}
    (listed : member ∈ toEntries members) :
    ∃ name ∈ members.map Prod.fst, member.1 = .text name := by
  induction members with
  | nil => simp [toEntries] at listed
  | cons first rest ih =>
      obtain ⟨key, item⟩ := first
      rw [toEntries, List.mem_cons] at listed
      rcases listed with rfl | later
      · exact ⟨key, by simp, rfl⟩
      · obtain ⟨name, present, same⟩ := ih later
        exact ⟨name, by simp [present], same⟩

/-- Members that stand under the wire names of fields leave nothing over. -/
theorem surplus_toEntries {fields : List Field} {members : List (String × Document)}
    (named : ∀ name ∈ members.map Prod.fst, name ∈ fields.map Field.wire) :
    surplus fields (toEntries members) = .valid () := by
  have spare : (toEntries members).flatMap
      (fun entry => surplusIssue (usedNames fields (toEntries members)) entry.1) = [] := by
    rw [List.flatMap_eq_nil_iff]
    intro member listed
    obtain ⟨name, present, same⟩ := mem_toEntries listed
    obtain ⟨field, known, wire⟩ := List.mem_map.mp (named name present)
    obtain ⟨value, found⟩ := entry_toEntries_isSome present
    have used : name ∈ usedNames fields (toEntries members) := by
      refine List.mem_filterMap.mpr ⟨field, known, ?_⟩
      subst wire
      simp [Field.entry, found]
    simp [same, surplusIssue, used]
  rw [surplus, spare]

/-- A record is read from the object with its fields under their wire names. -/
theorem record_object {name : String} {fields : List Field}
    {read : List (Value × Value) → Checked α} {members : List (String × Document)} {value : α}
    (named : members.map Prod.fst = fields.map Field.wire)
    (reads : read (toEntries members) = .valid value) :
    record name fields read (Document.object members).toValue = .valid value := by
  have whole : surplus fields (toEntries members) = .valid () :=
    surplus_toEntries fun name present => named ▸ present
  simp [Document.toValue, record, reads, whole]

/-! ## Values -/

/-- Every item of a list is read back. -/
theorem list_array {check : Value → Checked α} {write : α → Document} {items : List α}
    (reads : ∀ item ∈ items, check (write item).toValue = .valid item) :
    list check (Document.array (items.map write)).toValue = .valid items := by
  have counted : ∀ index, Checked.items check index (toValues (items.map write)) =
      .valid items := by
    induction items with
    | nil => exact fun _ => rfl
    | cons item rest ih =>
        intro index
        obtain ⟨first, others⟩ := List.forall_mem_cons.mp reads
        simp [toValues, Checked.items, first, ih others]
  exact counted 0

/-- Every entry of a map is read under its name, and they keep their order. -/
theorem map_object_mapValues {check : Value → Checked β} (write : α → Document) (change : α → β)
    (keyed : Keyed α)
    (reads : ∀ entry ∈ keyed.entries, check (write entry.2).toValue = .valid (change entry.2)) :
    map check (Document.object (keyed.entries.map fun entry => (entry.1, write entry.2))).toValue =
      .valid (keyed.mapValues change) := by
  have each : ∀ entries : List (String × α),
      (∀ entry ∈ entries, check (write entry.2).toValue = .valid (change entry.2)) →
      mapEntries check (toEntries (entries.map fun entry => (entry.1, write entry.2))) =
        .valid (entries.map fun entry => (entry.1, change entry.2)) := by
    intro entries
    induction entries with
    | nil => exact fun _ => rfl
    | cons entry rest ih =>
        intro reads
        obtain ⟨first, others⟩ := List.forall_mem_cons.mp reads
        simp [toEntries, mapEntries, text, first, ih others]
  rw [Document.toValue, map, each keyed.entries reads, Checked.map_valid,
    ← Keyed.entries_mapValues, Keyed.ofList_entries]

/-- Every entry of a map is read back. -/
theorem map_object {check : Value → Checked α} (write : α → Document) (keyed : Keyed α)
    (reads : ∀ entry ∈ keyed.entries, check (write entry.2).toValue = .valid entry.2) :
    map check (Document.object (keyed.entries.map fun entry => (entry.1, write entry.2))).toValue =
      .valid keyed := by
  rw [map_object_mapValues write id keyed reads, Keyed.mapValues_id]

@[simp] theorem text_toValue (value : String) :
    text (Document.text value).toValue = .valid value := rfl

@[simp] theorem nat_toValue (number : Nat) :
    nat (Document.int number).toValue = .valid number := rfl

@[simp] theorem bool_toValue (value : Bool) :
    bool (Document.bool value).toValue = .valid value := rfl

@[simp] theorem text_ofText? (value : Option String) :
    optional text (Document.ofText? value).toValue = .valid value := by
  cases value <;> rfl

/-- The document of something, or null. -/
def orNull (write : α → Document) : Option α → Document
  | none => .null
  | some item => write item

/-- Something is read if it is not written like nothing. -/
theorem optional_orNull_map {check : Value → Checked β} {write : α → Document}
    {change : α → β} {optional? : Option α} (something : ∀ item, (write item).toValue ≠ .null)
    (reads : ∀ item ∈ optional?, check (write item).toValue = .valid (change item)) :
    optional check (orNull write optional?).toValue = .valid (optional?.map change) := by
  cases optional? with
  | none => rfl
  | some item =>
      have read := reads item rfl
      simp only [orNull]
      cases written : (write item).toValue with
      | null => exact absurd written (something item)
      | _ => simp [optional, ← written, read]

/-- Something is read back. -/
theorem optional_orNull {check : Value → Checked α} {write : α → Document} {optional? : Option α}
    (something : ∀ item, (write item).toValue ≠ .null)
    (reads : ∀ item ∈ optional?, check (write item).toValue = .valid item) :
    optional check (orNull write optional?).toValue = .valid optional? := by
  simpa using optional_orNull_map something reads

end Schema

end Multitarget
