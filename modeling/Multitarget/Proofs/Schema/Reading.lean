import Multitarget.Schema.Record

/-!
# What was read

Whatever was read went through the checks of its parts: a record that was read has parts
that were read, or that stand for what was left out, and every item of a list and every
value of a map was read.
-/

namespace Multitarget

/-! ## Maps -/

namespace Keyed

variable {α : Type}

theorem mem_of_mem_place {name : String} {value : α} {entry : String × α}
    {entries : List (String × α)} (listed : entry ∈ place name (fun _ => value) entries) :
    entry = (name, value) ∨ entry ∈ entries := by
  induction entries with
  | nil => simpa [place] using listed
  | cons first rest ih =>
      obtain ⟨key, old⟩ := first
      rw [place] at listed
      split at listed
      next same =>
        rcases List.mem_cons.mp listed with here | behind
        · exact .inl (same ▸ here)
        · exact .inr (List.mem_cons_of_mem _ behind)
      next =>
        rcases List.mem_cons.mp listed with rfl | behind
        · exact .inr List.mem_cons_self
        · exact (ih behind).imp_right (List.mem_cons_of_mem _)

/-- A map of entries has no others. -/
theorem mem_of_mem_ofList {entry : String × α} {entries : List (String × α)}
    (listed : entry ∈ (ofList entries).entries) : entry ∈ entries := by
  have either : ∀ (rest : List (String × α)) (start : Keyed α),
      entry ∈ (rest.foldl (fun map entry => map.insert entry.1 entry.2) start).entries →
      entry ∈ start.entries ∨ entry ∈ rest := by
    intro rest
    induction rest with
    | nil => exact fun _ => .inl
    | cons first rest ih =>
        intro start listed
        rcases ih _ listed with before | behind
        · rcases mem_of_mem_place before with rfl | earlier
          · exact .inr List.mem_cons_self
          · exact .inl earlier
        · exact .inr (List.mem_cons_of_mem _ behind)
  exact (either entries empty listed).resolve_left (by simp)

end Keyed

namespace Schema

variable {α β : Type}

/-! ## Records and their parts -/

namespace Checked

theorem of_seq {change : Checked (α → β)} {checked : Checked α} {result : β}
    (read : change <*> checked = .valid result) :
    ∃ function value, change = .valid function ∧ checked = .valid value ∧
      function value = result := by
  rw [seq_eq] at read
  cases change with
  | invalid issues => cases checked <;> simp [apply] at read
  | valid function =>
      cases checked with
      | invalid issues => simp [apply] at read
      | valid value => exact ⟨function, value, rfl, rfl, by simpa using read⟩

theorem of_map {change : α → β} {checked : Checked α} {result : β}
    (read : change <$> checked = .valid result) :
    ∃ value, checked = .valid value ∧ change value = result := by
  rw [map_eq] at read
  cases checked with
  | invalid issues => simp [map] at read
  | valid value => exact ⟨value, rfl, by simpa using read⟩

theorem of_bind {checked : Checked α} {next : α → Checked β} {result : β}
    (read : checked.bind next = .valid result) :
    ∃ value, checked = .valid value ∧ next value = .valid result := by
  cases checked with
  | invalid issues => simp [bind] at read
  | valid value => exact ⟨value, rfl, read⟩

theorem of_within {step : Step} {checked : Checked α} {value : α}
    (read : checked.within step = .valid value) : checked = .valid value := by
  cases checked with
  | invalid issues => simp [within] at read
  | valid other => exact read

theorem of_items {check : Value → Checked α} {index : Nat} {values : List Value} {items : List α}
    (read : Checked.items check index values = .valid items) :
    ∀ item ∈ items, ∃ value, check value = .valid item := by
  induction values generalizing index items with
  | nil =>
      simp only [Checked.items, valid.injEq] at read
      simp [← read]
  | cons value rest ih =>
      change (List.cons <$> within (.index index) (check value)) <*>
        Checked.items check (index + 1) rest = .valid items at read
      obtain ⟨_, others, first, later, rfl⟩ := of_seq read
      obtain ⟨item, found, rfl⟩ := of_map first
      intro other listed
      rcases List.mem_cons.mp listed with rfl | behind
      · exact ⟨value, of_within found⟩
      · exact ih later other behind

end Checked

theorem of_record {name : String} {fields : List Field}
    {read : List (Value × Value) → Checked α} {value : Value} {result : α}
    (checked : record name fields read value = .valid result) :
    ∃ entries, read entries = .valid result := by
  cases value with
  | map entries =>
      obtain ⟨_, _, first, _, rfl⟩ := Checked.of_seq checked
      obtain ⟨found, reads, rfl⟩ := Checked.of_map first
      exact ⟨entries, reads⟩
  | _ => simp [record, Checked.fail] at checked

theorem of_required {entries : List (Value × β)} {field : Field} {check : β → Checked α}
    {result : α} (checked : required entries field check = .valid result) :
    ∃ value, check value = .valid result := by
  unfold required at checked
  split at checked
  · exact ⟨_, Checked.of_within checked⟩
  · simp at checked

theorem of_defaulted {entries : List (Value × β)} {field : Field} {default : α}
    {check : β → Checked α} {result : α}
    (checked : defaulted entries field default check = .valid result) :
    result = default ∨ ∃ value, check value = .valid result := by
  unfold defaulted at checked
  split at checked
  · exact .inr ⟨_, Checked.of_within checked⟩
  · exact .inl (Checked.valid.inj checked).symm

theorem of_list {check : Value → Checked α} {value : Value} {items : List α}
    (checked : list check value = .valid items) :
    ∀ item ∈ items, ∃ value, check value = .valid item := by
  cases value with
  | list values | tuple values | set values => exact Checked.of_items checked
  | _ => simp [list, Checked.fail] at checked

/-- Every value of a map was read. -/
theorem of_keyed {check : Value → Checked α} {value : Value} {keyed : Keyed α}
    (checked : map check value = .valid keyed) :
    ∀ entry ∈ keyed.entries, ∃ value, check value = .valid entry.2 := by
  have each : ∀ (entries : List (Value × Value)) (found : List (String × α)),
      mapEntries check entries = .valid found →
      ∀ entry ∈ found, ∃ value, check value = .valid entry.2 := by
    intro entries
    induction entries with
    | nil =>
        intro found read
        simp [← Checked.valid.inj read]
    | cons first rest ih =>
        intro found read
        obtain ⟨_, others, second, later, rfl⟩ := Checked.of_seq read
        obtain ⟨_, item, third, reads, rfl⟩ := Checked.of_seq second
        obtain ⟨name, _, rfl⟩ := Checked.of_map third
        intro entry listed
        rcases List.mem_cons.mp listed with rfl | behind
        · exact ⟨first.2, Checked.of_within reads⟩
        · exact ih others later entry behind
  cases value with
  | map entries =>
      obtain ⟨found, read, rfl⟩ := Checked.of_map checked
      exact fun entry listed => each entries found read entry (Keyed.mem_of_mem_ofList listed)
  | _ => simp [map, Checked.fail] at checked

theorem of_optional {check : Value → Checked α} {value : Value} {item : α}
    (checked : optional check value = .valid (some item)) : check value = .valid item := by
  cases value with
  | null => simp [optional] at checked
  | _ =>
      obtain ⟨found, read, same⟩ := Checked.of_map checked
      rwa [Option.some.inj same] at read

theorem of_fullText {value : Value} {result : String}
    (checked : fullText value = .valid result) : result ≠ "" := by
  obtain ⟨found, _, full⟩ := Checked.of_bind checked
  split at full
  · simp [Checked.fail] at full
  · rwa [← Checked.valid.inj full]

theorem of_matching {pattern : String} {test : String → Bool} {value : Value} {result : String}
    (checked : matching pattern test value = .valid result) : test result = true := by
  obtain ⟨found, _, matched⟩ := Checked.of_bind checked
  split at matched
  next fits => rwa [← Checked.valid.inj matched]
  next => simp [Checked.fail] at matched

end Schema

end Multitarget
