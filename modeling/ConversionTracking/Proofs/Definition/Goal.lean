import ConversionTracking.Definition.Goal
import ConversionTracking.Proofs.Definition.Step

/-!
What a valid definition is: its fields are read from what is given under their names, nothing is given
under other names, and the rules between the fields hold. A definition that is written out is read
as itself.
-/

namespace ConversionTracking

namespace GoalDefinition

structure HasKnownTypes (definition : GoalDefinition) : Prop where
  knownType : definition.goalType ∈ goalTypes
  knownValueType : definition.valueType ∈ valueTypes
  fixedValue : definition.valueType = "fixed" → definition.fixedValue ≠ none
  dynamicPath : definition.valueType = "dynamic" → definition.dynamicPath.getD "" ≠ ""

structure IsConsistent (definition : GoalDefinition) : Prop extends HasKnownTypes definition where
  conditions : ∃ conditions,
    Conditions.read definition.goalType definition.conditions.toValue = .ok conditions
  steps : ∀ step ∈ definition.funnelSteps.getD [], FunnelStep.IsReadable step.toValue

theorem readAll_eq_ok_iff (raws : List Value) :
    (∃ steps, (FunnelStep.readAll raws).result = .ok steps) ↔
      ∀ raw ∈ raws, FunnelStep.IsReadable raw := by
  induction raws with
  | nil => simp [FunnelStep.readAll]
  | cons raw rest ih =>
      rw [List.forall_mem_cons, ← ih]
      simp only [FunnelStep.readAll, Outcome.bind_eq_ok_iff, FunnelStep.IsReadable]
      constructor
      · rintro ⟨_, step, reads, steps, readsRest, _⟩
        exact ⟨⟨step, reads⟩, steps, readsRest⟩
      · rintro ⟨⟨step, reads⟩, steps, readsRest⟩
        exact ⟨step :: steps, step, reads, steps, readsRest, rfl⟩

def partsResult (definition : GoalDefinition) : Except Fault Unit :=
  match Conditions.read definition.goalType definition.conditions.toValue with
  | .error fault => .error fault.shown
  | .ok _ =>
      (FunnelStep.readAll ((definition.funnelSteps.getD []).map Fields.toValue)).result.map
        fun _ => ()

theorem result_checkConsistency_cases (definition : GoalDefinition) :
    (¬definition.HasKnownTypes ∧
        ∃ cause, definition.checkConsistency.result = .error (inconsistent cause)) ∨
      (definition.HasKnownTypes ∧
        definition.checkConsistency.result = definition.partsResult.mapError ofPart) := by
  unfold checkConsistency
  simp only [List.contains_eq_mem, Bool.not_eq_true', decide_eq_false_iff_not,
    Option.isNone_iff_eq_none, String.isEmpty_iff]
  split
  · rename_i unknown
    exact Or.inl ⟨fun known => unknown known.knownType, _, rfl⟩
  rename_i knownType
  split
  · rename_i unknown
    exact Or.inl ⟨fun known => unknown known.knownValueType, _, rfl⟩
  rename_i knownValueType
  split
  · rename_i missing
    exact Or.inl ⟨fun known => known.fixedValue missing.1 missing.2, _, rfl⟩
  rename_i fixedValue
  split
  · rename_i missing
    exact Or.inl ⟨fun known => known.dynamicPath missing.1 missing.2, _, rfl⟩
  rename_i dynamicPath
  refine Or.inr ⟨⟨not_not.mp knownType, not_not.mp knownValueType,
    fun isFixed isNone => fixedValue ⟨isFixed, isNone⟩,
    fun isDynamic isEmpty => dynamicPath ⟨isDynamic, isEmpty⟩⟩, ?_⟩
  rw [Outcome.result_recover]
  unfold partsResult
  simp only [Outcome.result_bind, Outcome.result_ofExcept]
  cases Conditions.read definition.goalType definition.conditions.toValue with
  | error fault => rfl
  | ok conditions =>
      simp only [Except.mapError]
      cases (FunnelStep.readAll ((definition.funnelSteps.getD []).map Fields.toValue)).result <;> rfl

theorem partsResult_eq_ok_iff (definition : GoalDefinition) :
    definition.partsResult = .ok () ↔
      (∃ conditions,
        Conditions.read definition.goalType definition.conditions.toValue = .ok conditions) ∧
      ∀ step ∈ definition.funnelSteps.getD [], FunnelStep.IsReadable step.toValue := by
  have steps := readAll_eq_ok_iff ((definition.funnelSteps.getD []).map Fields.toValue)
  rw [List.forall_mem_map] at steps
  rw [← steps]
  unfold partsResult
  cases Conditions.read definition.goalType definition.conditions.toValue with
  | error fault => simp
  | ok conditions =>
      cases (FunnelStep.readAll ((definition.funnelSteps.getD []).map Fields.toValue)).result <;>
        simp [Except.map]

theorem checkConsistency_eq_ok_iff (definition : GoalDefinition) :
    definition.checkConsistency.result = .ok () ↔ definition.IsConsistent := by
  rcases definition.result_checkConsistency_cases with ⟨unknown, cause, failed⟩ | ⟨known, result⟩
  · rw [failed]
    exact iff_of_false (by simp) fun consistent => unknown consistent.toHasKnownTypes
  · have onlyParts : definition.partsResult.mapError ofPart = .ok () ↔
        definition.partsResult = .ok () := by
      cases definition.partsResult <;> simp [Except.mapError]
    rw [result, onlyParts, partsResult_eq_ok_iff]
    exact ⟨fun ⟨conditions, steps⟩ => ⟨known, conditions, steps⟩,
      fun consistent => ⟨consistent.conditions, consistent.steps⟩⟩

def OnlyNames (attributes : Entries) : Prop := ∀ entry ∈ attributes, ∃ name, entry.1 = .text name

def OnlyFields (attributes : Entries) : Prop :=
  ∀ entry ∈ attributes, ∃ name ∈ fieldNames, entry.1 = .text name

theorem unexpected_eq_nil_iff {attributes : Entries} (onlyNames : OnlyNames attributes) :
    unexpected attributes = [] ↔ OnlyFields attributes := by
  rw [unexpected, List.filterMap_eq_nil_iff]
  refine forall₂_congr fun entry member => ?_
  obtain ⟨name, isName⟩ := onlyNames entry member
  simp [isName]

theorem OnlyFields.onlyNames {attributes : Entries} (onlyFields : OnlyFields attributes) :
    OnlyNames attributes := by
  intro entry member
  obtain ⟨name, _, isName⟩ := onlyFields entry member
  exact ⟨name, isName⟩

theorem any_isNone_eq_false {attributes : Entries} (onlyNames : OnlyNames attributes) :
    (attributes.any fun entry => entry.1.text?.isNone) = false := by
  rw [List.any_eq_false]
  intro entry member
  obtain ⟨name, isName⟩ := onlyNames entry member
  simp [isName, Value.text?]

def refusalOf (attributes : Entries) : Fault → Fault
  | .definition (.invalidGoal issues) => refusal (Value.entriesAreWritable attributes) issues
  | fault => fault

theorem result_validate_of_reads {attributes : Entries} {definition : GoalDefinition}
    (onlyFields : OnlyFields attributes) (reads : ofEntries attributes = .valid definition) :
    (validate attributes).result =
      match definition.checkConsistency.result with
      | .ok _ => .ok definition
      | .error fault => .error (refusalOf attributes fault) := by
  unfold validate
  rw [any_isNone_eq_false onlyFields.onlyNames, reads,
    (unexpected_eq_nil_iff onlyFields.onlyNames).mpr onlyFields]
  simp only [Bool.false_eq_true, if_false, Checked.issues, List.append_nil]
  rw [Outcome.result_bind, Outcome.result_recover]
  cases definition.checkConsistency.result with
  | ok _ => rfl
  | error fault =>
      cases fault with
      | definition cause => cases cause <;> rfl
      | _ => rfl

theorem result_validate_of_issues {attributes : Entries}
    (onlyNames : OnlyNames attributes)
    (fails : ¬((ofEntries attributes).IsValid ∧ OnlyFields attributes)) :
    (validate attributes).result =
      .error (refusal (((ofEntries attributes).issues ++ unexpected attributes).all (·.isWritable))
        (((ofEntries attributes).issues ++ unexpected attributes).map .field)) := by
  unfold validate
  rw [any_isNone_eq_false onlyNames]
  simp only [Bool.false_eq_true, if_false]
  split
  · rename_i definition reads noIssues
    have onlyFields := (unexpected_eq_nil_iff onlyNames).mp (List.append_eq_nil_iff.mp noIssues).2
    exact absurd ⟨⟨definition, reads⟩, onlyFields⟩ fails
  · rfl

theorem result_validate_of_other {attributes : Entries} (hasOther : ¬OnlyNames attributes) :
    (validate attributes).result = .error .kindMismatch := by
  have isOther : (attributes.any fun entry => entry.1.text?.isNone) = true := by
    by_contra noOther
    rw [Bool.not_eq_true, List.any_eq_false] at noOther
    refine hasOther fun entry member => ?_
    obtain ⟨name, isName⟩ := Option.ne_none_iff_exists'.mp fun isNone =>
      noOther entry member (Option.isNone_iff_eq_none.mpr isNone)
    exact ⟨name, (Value.text?_eq_some_iff _ _).mp isName⟩
  unfold validate
  rw [isOther]
  rfl

theorem validate_eq_ok_iff (attributes : Entries) (definition : GoalDefinition) :
    (validate attributes).result = .ok definition ↔
      OnlyFields attributes ∧ ofEntries attributes = .valid definition ∧
        definition.IsConsistent := by
  constructor
  · intro valid
    by_cases onlyNames : OnlyNames attributes
    · by_cases passes : (ofEntries attributes).IsValid ∧ OnlyFields attributes
      · obtain ⟨⟨given, reads⟩, onlyFields⟩ := passes
        rw [result_validate_of_reads onlyFields reads] at valid
        cases checked : given.checkConsistency.result with
        | ok _ =>
            rw [checked] at valid
            obtain rfl := Except.ok.inj valid
            exact ⟨onlyFields, reads, (checkConsistency_eq_ok_iff given).mp checked⟩
        | error fault =>
            rw [checked] at valid
            contradiction
      · rw [result_validate_of_issues onlyNames passes] at valid
        contradiction
    · rw [result_validate_of_other onlyNames] at valid
      contradiction
  · rintro ⟨onlyFields, reads, consistent⟩
    rw [result_validate_of_reads onlyFields reads,
      (checkConsistency_eq_ok_iff definition).mpr consistent]

structure IsReadFrom (definition : GoalDefinition) (attributes : Entries) : Prop where
  name : attributes.required "name" FieldKind.name = .valid definition.name
  goalType : attributes.required "type" FieldKind.text = .valid definition.goalType
  description : attributes.optional "description" FieldKind.text = .valid definition.description
  conditions :
    attributes.withDefault "conditions" [] FieldKind.fields = .valid definition.conditions
  valueType : attributes.withDefault "value_type" "none" FieldKind.text = .valid definition.valueType
  fixedValue : attributes.optional "fixed_value" FieldKind.number = .valid definition.fixedValue
  dynamicPath :
    attributes.optional "dynamic_value_path" FieldKind.text = .valid definition.dynamicPath
  allowMultiple :
    attributes.withDefault "allow_multiple" false FieldKind.truth = .valid definition.allowMultiple
  isActive : attributes.withDefault "is_active" true FieldKind.truth = .valid definition.isActive
  funnelSteps :
    attributes.optional "funnel_steps" (FieldKind.items FieldKind.fields) =
      .valid definition.funnelSteps
  siteId : attributes.optional "site_id" FieldKind.whole = .valid definition.siteId
  tenantId : attributes.optional "tenant_id" FieldKind.text = .valid definition.tenantId

theorem ofEntries_eq_valid_iff (attributes : Entries) (definition : GoalDefinition) :
    ofEntries attributes = .valid definition ↔ definition.IsReadFrom attributes := by
  constructor
  · intro reads
    simp only [ofEntries, Checked.seq_eq_valid_iff, Checked.map_eq_valid_iff] at reads
    obtain ⟨_, _, ⟨_, _, ⟨_, _, ⟨_, _, ⟨_, _, ⟨_, _, ⟨_, _, ⟨_, _, ⟨_, _, ⟨_, _, ⟨_, _, ⟨_, name, rfl⟩,
      goalType, rfl⟩, description, rfl⟩, conditions, rfl⟩, valueType, rfl⟩, fixedValue, rfl⟩,
      dynamicPath, rfl⟩, allowMultiple, rfl⟩, isActive, rfl⟩, funnelSteps, rfl⟩, siteId, rfl⟩,
      tenantId, rfl⟩ := reads
    exact ⟨name, goalType, description, conditions, valueType, fixedValue, dynamicPath,
      allowMultiple, isActive, funnelSteps, siteId, tenantId⟩
  · intro reads
    unfold ofEntries
    rw [reads.name, reads.goalType, reads.description, reads.conditions, reads.valueType,
      reads.fixedValue, reads.dynamicPath, reads.allowMultiple, reads.isActive, reads.funnelSteps,
      reads.siteId, reads.tenantId]
    rfl

/-- The name fits, and no map has a name twice. -/
structure IsWellFormed (definition : GoalDefinition) : Prop where
  nameGiven : definition.name ≠ ""
  nameFits : definition.name.length ≤ 255
  conditions : definition.conditions.Distinct
  steps : ∀ step ∈ definition.funnelSteps.getD [], step.Distinct

theorem IsReadFrom.isWellFormed {definition : GoalDefinition} {attributes : Entries}
    (reads : definition.IsReadFrom attributes) : definition.IsWellFormed := by
  obtain ⟨name, _, readsName⟩ := (Entries.required_eq_valid_iff _ _ _ _).mp reads.name
  obtain ⟨_, nameGiven, nameFits⟩ := (FieldKind.name_eq_valid_iff _ _).mp readsName
  refine ⟨nameGiven, nameFits, ?_, ?_⟩
  · rcases (Entries.withDefault_eq_valid_iff _ _ _ _ _).mp reads.conditions with
      ⟨_, isEmpty⟩ | ⟨value, _, readsValue⟩
    · rw [← isEmpty]
      exact List.nodup_nil
    · exact FieldKind.distinct_of_fields readsValue
  · rcases (Entries.optional_eq_valid_iff _ _ _ _).mp reads.funnelSteps with
      ⟨_, isNone⟩ | ⟨value, steps, _, _, readsSteps, isSome⟩
    · simp [isNone]
    · rw [isSome]
      exact FieldKind.distinct_of_items readsSteps

def IsPresentedBy (definition : GoalDefinition) (attributes : Entries) : Prop :=
  ∀ name ∈ fieldNames, attributes.field? name = definition.toEntries.field? name ∨
    (attributes.field? name = none ∧ definition.toEntries.field? name = some .null)

section

variable {definition : GoalDefinition} {attributes : Entries} {name : String}
  (presented : definition.IsPresentedBy attributes) (isField : name ∈ fieldNames)

include presented isField

theorem IsPresentedBy.field? {value : Value} (written : definition.toEntries.field? name = some value)
    (notNull : value ≠ .null) : attributes.field? name = some value := by
  rcases presented name isField with same | ⟨_, isNull⟩
  · exact same.trans written
  · exact absurd (Option.some.inj (written.symm.trans isNull)) notNull

theorem IsPresentedBy.optional {α : Type} {check : Value → Checked α} {wrap : α → Value}
    {value : Option α}
    (written : definition.toEntries.field? name = some ((value.map wrap).getD .null))
    (reads : ∀ content, value = some content → check (wrap content) = .valid content)
    (notNull : ∀ content, wrap content ≠ .null) : attributes.optional name check = .valid value := by
  rw [Entries.optional, Entries.withDefault_eq_valid_iff]
  cases value with
  | none =>
      rcases presented name isField with same | ⟨isAbsent, _⟩
      · exact Or.inr ⟨.null, same.trans written, rfl⟩
      · exact Or.inl ⟨isAbsent, rfl⟩
  | some content =>
      refine Or.inr ⟨wrap content, presented.field? isField written (notNull content), ?_⟩
      exact (FieldKind.optional_eq_valid_iff _ _ _).mpr
        (Or.inr ⟨notNull content, content, reads content rfl, rfl⟩)

end

section

variable (definition : GoalDefinition)

structure WritesOut (written : String → Option Value) : Prop where
  name : written "name" = some (.text definition.name)
  goalType : written "type" = some (.text definition.goalType)
  description : written "description" = some ((definition.description.map .text).getD .null)
  conditions : written "conditions" = some (.map definition.conditions.toEntries)
  valueType : written "value_type" = some (.text definition.valueType)
  fixedValue : written "fixed_value" = some ((definition.fixedValue.map .float).getD .null)
  dynamicPath : written "dynamic_value_path" = some ((definition.dynamicPath.map .text).getD .null)
  allowMultiple : written "allow_multiple" = some (.bool definition.allowMultiple)
  isActive : written "is_active" = some (.bool definition.isActive)
  funnelSteps : written "funnel_steps" =
    some ((definition.funnelSteps.map fun steps => .list (steps.map Fields.toValue)).getD .null)
  siteId : written "site_id" = some ((definition.siteId.map .int).getD .null)
  tenantId : written "tenant_id" = some ((definition.tenantId.map .text).getD .null)

theorem writesOut_toEntries : definition.WritesOut definition.toEntries.field? := by
  constructor <;> simp [toEntries, stepsValue, Fields.toValue_eq]

end

theorem IsWellFormed.isReadFrom {definition : GoalDefinition} {attributes : Entries}
    (wellFormed : definition.IsWellFormed) (presented : definition.IsPresentedBy attributes) :
    definition.IsReadFrom attributes := by
  have written := definition.writesOut_toEntries
  have text (name : String) : (Value.text name) ≠ .null := by simp
  have bool (value : Bool) : (Value.bool value) ≠ .null := by simp
  constructor
  case name =>
    rw [Entries.required_eq_valid_iff]
    refine ⟨_, presented.field? (by decide) written.name (text _), ?_⟩
    exact (FieldKind.name_eq_valid_iff _ _).mpr ⟨rfl, wellFormed.nameGiven, wellFormed.nameFits⟩
  case goalType =>
    rw [Entries.required_eq_valid_iff]
    exact ⟨_, presented.field? (by decide) written.goalType (text _), rfl⟩
  case conditions =>
    rw [Entries.withDefault_eq_valid_iff]
    exact Or.inr ⟨_, presented.field? (by decide) written.conditions (by simp),
      FieldKind.fields_toValue wellFormed.conditions⟩
  case valueType =>
    rw [Entries.withDefault_eq_valid_iff]
    exact Or.inr ⟨_, presented.field? (by decide) written.valueType (text _), rfl⟩
  case allowMultiple =>
    rw [Entries.withDefault_eq_valid_iff]
    exact Or.inr ⟨_, presented.field? (by decide) written.allowMultiple (bool _), rfl⟩
  case isActive =>
    rw [Entries.withDefault_eq_valid_iff]
    exact Or.inr ⟨_, presented.field? (by decide) written.isActive (bool _), rfl⟩
  case description => exact presented.optional (by decide) written.description (fun _ _ => rfl) text
  case fixedValue =>
    exact presented.optional (by decide) written.fixedValue (fun _ _ => rfl) (fun _ => by simp)
  case dynamicPath => exact presented.optional (by decide) written.dynamicPath (fun _ _ => rfl) text
  case siteId =>
    exact presented.optional (by decide) written.siteId (fun _ _ => rfl) (fun _ => by simp)
  case tenantId => exact presented.optional (by decide) written.tenantId (fun _ _ => rfl) text
  case funnelSteps =>
    refine presented.optional (by decide) written.funnelSteps (fun steps isSteps => ?_) (by simp)
    have distinct := wellFormed.steps
    rw [isSteps] at distinct
    exact FieldKind.each_map_toValue distinct 0

theorem isPresentedBy_toEntries (definition : GoalDefinition) :
    definition.IsPresentedBy definition.toEntries := fun _ _ => Or.inl rfl

theorem onlyFields_of_keys {attributes : Entries}
    (keys : attributes.map Prod.fst = fieldNames.map .text) : OnlyFields attributes := by
  intro entry member
  have isKey := List.mem_map_of_mem (f := Prod.fst) member
  rw [keys] at isKey
  obtain ⟨name, isField, same⟩ := List.mem_map.mp isKey
  exact ⟨name, isField, same.symm⟩

theorem onlyFields_toEntries (definition : GoalDefinition) : OnlyFields definition.toEntries :=
  onlyFields_of_keys rfl

/-- What presents a definition is read as that definition, and is valid when its rules hold. -/
theorem IsWellFormed.validate_eq_ok_iff {definition : GoalDefinition} {attributes : Entries}
    (wellFormed : definition.IsWellFormed) (onlyFields : OnlyFields attributes)
    (presented : definition.IsPresentedBy attributes) (result : GoalDefinition) :
    (validate attributes).result = .ok result ↔ result = definition ∧ definition.IsConsistent := by
  have reads := (ofEntries_eq_valid_iff _ _).mpr (wellFormed.isReadFrom presented)
  rw [GoalDefinition.validate_eq_ok_iff, reads, Checked.valid.injEq]
  constructor
  · rintro ⟨_, rfl, consistent⟩
    exact ⟨rfl, consistent⟩
  · rintro ⟨rfl, consistent⟩
    exact ⟨onlyFields, rfl, consistent⟩

theorem isWellFormed_of_validate {attributes : Entries} {definition : GoalDefinition}
    (valid : (validate attributes).result = .ok definition) :
    definition.IsWellFormed ∧ definition.IsConsistent := by
  obtain ⟨_, reads, consistent⟩ := (GoalDefinition.validate_eq_ok_iff _ _).mp valid
  exact ⟨((ofEntries_eq_valid_iff _ _).mp reads).isWellFormed, consistent⟩

end GoalDefinition

end ConversionTracking
