import ConversionTracking.Proofs.Value.Entries

/-!
Fields that are checked together: a reading of several fields is valid when each of them is. Maps and
lists of maps that were read before are read as they are.
-/

namespace ConversionTracking

namespace Checked

variable {α β : Type}

def IsValid (checked : Checked α) : Prop := ∃ value, checked = .valid value

@[simp] theorem pure_eq_valid_iff (value other : α) :
    (pure value : Checked α) = .valid other ↔ value = other :=
  Checked.valid.injEq value other ▸ Iff.rfl

theorem map_eq_valid_iff (change : α → β) (checked : Checked α) (result : β) :
    change <$> checked = .valid result ↔ ∃ value, checked = .valid value ∧ change value = result := by
  cases checked with
  | valid value => simp [Functor.map, map]
  | invalid issues => simp [Functor.map, map]

theorem seq_eq_valid_iff (change : Checked (α → β)) (checked : Checked α) (result : β) :
    change <*> checked = .valid result ↔
      ∃ function value, change = .valid function ∧ checked = .valid value ∧
        function value = result := by
  cases change <;> cases checked <;> simp [Seq.seq, apply]

@[simp] theorem within_eq_valid_iff (place : Place) (checked : Checked α) (value : α) :
    checked.within place = .valid value ↔ checked = .valid value := by
  cases checked <;> simp [within]

@[simp] theorem ofReading_eq_valid_iff (value : Value) (reading : Except Problem α) (result : α) :
    ofReading value reading = .valid result ↔ reading = .ok result := by
  cases reading <;> simp [ofReading, refuse]

@[simp] theorem isValid_pure (value : α) : (pure value : Checked α).IsValid := ⟨value, rfl⟩

@[simp] theorem isValid_map_iff (change : α → β) (checked : Checked α) :
    (change <$> checked).IsValid ↔ checked.IsValid := by
  simp [IsValid, map_eq_valid_iff]

@[simp] theorem isValid_seq_iff (change : Checked (α → β)) (checked : Checked α) :
    (change <*> checked).IsValid ↔ change.IsValid ∧ checked.IsValid := by
  simp [IsValid, seq_eq_valid_iff]

@[simp] theorem isValid_within_iff (place : Place) (checked : Checked α) :
    (checked.within place).IsValid ↔ checked.IsValid := by
  simp [IsValid]

end Checked

namespace FieldKind

theorem named_toEntries (fields : Fields) : named fields.toEntries = .valid fields := by
  induction fields with
  | nil => rfl
  | cons field rest ih =>
      have cons : named (Fields.toEntries (field :: rest)) =
          (fun name rest => (name, field.2) :: rest) <$> fieldName (.text field.1)
            <*> named (Fields.toEntries rest) := rfl
      rw [cons, ih]
      rfl

theorem fields_toValue {entries : Fields} (distinct : entries.Distinct) :
    fields entries.toValue = .valid entries := by
  rw [Fields.toValue_eq, fields, named_toEntries]
  exact congrArg Checked.valid (Fields.ofList_of_distinct distinct)

theorem distinct_of_fields {value : Value} {entries : Fields}
    (reads : fields value = .valid entries) : entries.Distinct := by
  cases value with
  | map pairs =>
      obtain ⟨pairs, _, rfl⟩ := (Checked.map_eq_valid_iff _ _ _).mp reads
      exact Fields.distinct_ofList pairs
  | _ => simp [fields, Checked.refuse] at reads

theorem each_map_toValue {steps : List Fields} (distinct : ∀ step ∈ steps, step.Distinct)
    (position : Nat) : each fields position (steps.map Fields.toValue) = .valid steps := by
  induction steps generalizing position with
  | nil => rfl
  | cons step rest ih =>
      obtain ⟨first, others⟩ := List.forall_mem_cons.mp distinct
      rw [List.map_cons, each, fields_toValue first, ih others]
      rfl

theorem exists_pair_of_named {pairs : Entries} {fields : Fields} (reads : named pairs = .valid fields) :
    ∀ field ∈ fields, ∃ pair ∈ pairs, pair.2 = field.2 := by
  induction pairs generalizing fields with
  | nil =>
      obtain rfl := Checked.valid.inj reads
      simp
  | cons pair rest ih =>
      obtain ⟨_, others, first, readsOthers, rfl⟩ := (Checked.seq_eq_valid_iff _ _ _).mp reads
      obtain ⟨name, _, rfl⟩ := (Checked.map_eq_valid_iff _ _ _).mp first
      refine List.forall_mem_cons.mpr ⟨⟨pair, List.mem_cons_self, rfl⟩, fun field member => ?_⟩
      obtain ⟨other, isOther, same⟩ := ih readsOthers field member
      exact ⟨other, List.mem_cons_of_mem pair isOther, same⟩

theorem forall_of_fields (property : Value → Prop) {value : Value} {entries : Fields}
    (reads : fields value = .valid entries)
    (holds : ∀ pairs, value = .map pairs → ∀ pair ∈ pairs, property pair.2) :
    ∀ field ∈ entries, property field.2 := by
  cases value with
  | map pairs =>
      obtain ⟨fields, isNamed, rfl⟩ := (Checked.map_eq_valid_iff _ _ _).mp reads
      apply Fields.forall_ofList property
      intro field member
      obtain ⟨pair, isPair, same⟩ := exists_pair_of_named isNamed field member
      exact same ▸ holds pairs rfl pair isPair
  | _ => simp [fields, Checked.refuse] at reads

theorem exists_value_of_each {α : Type} {check : Value → Checked α} {position : Nat}
    {values : List Value} {results : List α} (reads : each check position values = .valid results) :
    ∀ result ∈ results, ∃ value ∈ values, check value = .valid result := by
  induction values generalizing position results with
  | nil =>
      obtain rfl := Checked.valid.inj reads
      simp
  | cons value rest ih =>
      obtain ⟨_, others, first, readsOthers, rfl⟩ := (Checked.seq_eq_valid_iff _ _ _).mp reads
      obtain ⟨result, readsFirst, rfl⟩ := (Checked.map_eq_valid_iff _ _ _).mp first
      refine List.forall_mem_cons.mpr ⟨⟨value, List.mem_cons_self,
        (Checked.within_eq_valid_iff _ _ _).mp readsFirst⟩, fun other member => ?_⟩
      obtain ⟨given, isGiven, readsOther⟩ := ih readsOthers other member
      exact ⟨given, List.mem_cons_of_mem value isGiven, readsOther⟩

theorem exists_value_of_items {α : Type} {check : Value → Checked α} {value : Value}
    {results : List α} (reads : items check value = .valid results) :
    ∃ values, (value = .list values ∨ value = .tuple values ∨ value = .set values) ∧
      ∀ result ∈ results, ∃ item ∈ values, check item = .valid result := by
  cases value with
  | list values => exact ⟨values, Or.inl rfl, exists_value_of_each reads⟩
  | tuple values => exact ⟨values, Or.inr (Or.inl rfl), exists_value_of_each reads⟩
  | set values => exact ⟨values, Or.inr (Or.inr rfl), exists_value_of_each reads⟩
  | _ => simp [items, Checked.refuse] at reads

theorem distinct_of_items {value : Value} {steps : List Fields}
    (reads : items fields value = .valid steps) : ∀ step ∈ steps, step.Distinct := by
  intro step isStep
  obtain ⟨_, _, areRead⟩ := exists_value_of_items reads
  obtain ⟨_, _, readsStep⟩ := areRead step isStep
  exact distinct_of_fields readsStep

theorem optional_eq_valid_iff {α : Type} (check : Value → Checked α) (value : Value)
    (result : Option α) :
    optional check value = .valid result ↔
      (value = .null ∧ none = result) ∨
        (value ≠ .null ∧ ∃ content, check value = .valid content ∧ some content = result) := by
  cases value <;> simp [optional, Value.isNull, Checked.map_eq_valid_iff]

theorem name_eq_valid_iff (value : Value) (result : String) :
    name value = .valid result ↔
      text value = .valid result ∧ result ≠ "" ∧ result.length ≤ 255 := by
  unfold name
  cases text value with
  | invalid issues => simp
  | valid given =>
      simp only [String.isEmpty_iff, Checked.valid.injEq]
      by_cases isEmpty : given = ""
      · simp only [isEmpty, if_true, Checked.refuse, reduceCtorEq, false_iff]
        rintro ⟨rfl, notEmpty, _⟩
        exact notEmpty rfl
      · by_cases isLong : 255 < given.length
        · simp only [isEmpty, isLong, if_false, if_true, Checked.refuse, reduceCtorEq, false_iff]
          rintro ⟨rfl, _, fits⟩
          omega
        · simp only [isEmpty, isLong, if_false, Checked.valid.injEq]
          constructor
          · rintro rfl
            exact ⟨rfl, isEmpty, by omega⟩
          · exact And.left

end FieldKind

namespace Entries

variable {α : Type} (entries : Entries) (name : String) (check : Value → Checked α)

theorem required_eq_valid_iff (result : α) :
    entries.required name check = .valid result ↔
      ∃ value, entries.field? name = some value ∧ check value = .valid result := by
  unfold required
  cases entries.field? name with
  | none => simp [Checked.refuse, Checked.within]
  | some value => simp

theorem withDefault_eq_valid_iff (missing result : α) :
    entries.withDefault name missing check = .valid result ↔
      (entries.field? name = none ∧ missing = result) ∨
        ∃ value, entries.field? name = some value ∧ check value = .valid result := by
  unfold withDefault
  cases entries.field? name with
  | none => simp
  | some value => simp

theorem optional_eq_valid_iff (result : Option α) :
    entries.optional name check = .valid result ↔
      ((entries.field? name).getD .null = .null ∧ result = none) ∨
        ∃ value content, entries.field? name = some value ∧ value ≠ .null ∧
          check value = .valid content ∧ result = some content := by
  rw [optional, withDefault_eq_valid_iff]
  cases entries.field? name with
  | none => simp [eq_comm]
  | some value => simp [FieldKind.optional_eq_valid_iff, eq_comm (a := result)]

theorem isValid_required_iff :
    (entries.required name check).IsValid ↔
      ∃ value, entries.field? name = some value ∧ (check value).IsValid := by
  simp only [Checked.IsValid, required_eq_valid_iff]
  exact ⟨fun ⟨result, value, found, reads⟩ => ⟨value, found, result, reads⟩,
    fun ⟨value, found, result, reads⟩ => ⟨result, value, found, reads⟩⟩

theorem isValid_withDefault_iff (missing : α) :
    (entries.withDefault name missing check).IsValid ↔
      ∀ value, entries.field? name = some value → (check value).IsValid := by
  unfold withDefault
  cases entries.field? name with
  | none => simp
  | some value => simp

theorem isValid_optional_iff :
    (entries.optional name check).IsValid ↔
      ∀ value, entries.field? name = some value → value = .null ∨ (check value).IsValid := by
  rw [optional, isValid_withDefault_iff]
  refine forall₂_congr fun value _ => ?_
  by_cases isNull : value = .null
  · simp [Checked.IsValid, FieldKind.optional_eq_valid_iff, isNull]
  · simp [Checked.IsValid, FieldKind.optional_eq_valid_iff, isNull]

end Entries

end ConversionTracking
