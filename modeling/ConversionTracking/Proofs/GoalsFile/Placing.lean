import ConversionTracking.GoalsFile
import ConversionTracking.Proofs.Definition.Goal
import ConversionTracking.Proofs.Store.Scope

/-!
Definitions in their places. What a definition from a file becomes when its goal is created or
updated is the definition itself, with the site and the tenant of its place: its own or the scope's
for a new goal, the stored ones for a goal that is there.
-/

namespace ConversionTracking

theorem Entries.field?_filter_given {entries : Entries} (distinct : (names entries).Nodup)
    (name : String) :
    field? (List.filter (fun entry => !entry.2.isNull) entries) name =
      (field? entries name).filter fun value => !value.isNull := by
  have filtered : (names (List.filter (fun entry => !entry.2.isNull) entries)).Nodup :=
    distinct.sublist (List.Sublist.filterMap _ List.filter_sublist)
  apply Option.ext
  intro value
  rw [field?_eq_some_iff filtered, List.mem_filter, Option.filter_eq_some_iff,
    field?_eq_some_iff distinct]

namespace GoalDefinition

def inPlaceOf (definition : GoalDefinition) (goal : Goal) : GoalDefinition :=
  { definition with siteId := goal.siteId, tenantId := goal.tenantId }

def placedIn (definition : GoalDefinition) (scope : Scope) : GoalDefinition :=
  { definition with
    siteId := definition.siteId <|> scope.siteId
    tenantId := definition.tenantId <|> scope.tenantId }

def LiesIn (definition : GoalDefinition) (scope : Scope) : Prop :=
  scope.sees definition.siteId definition.tenantId = true

instance (definition : GoalDefinition) (scope : Scope) : Decidable (definition.LiesIn scope) :=
  inferInstanceAs (Decidable (_ = true))

section

variable {definition : GoalDefinition}

theorem IsWellFormed.moved (wellFormed : definition.IsWellFormed) (siteId : Option Int)
    (tenantId : Option String) : ({ definition with siteId, tenantId } : GoalDefinition).IsWellFormed :=
  ⟨wellFormed.nameGiven, wellFormed.nameFits, wellFormed.conditions, wellFormed.steps⟩

theorem IsConsistent.moved (consistent : definition.IsConsistent) (siteId : Option Int)
    (tenantId : Option String) : ({ definition with siteId, tenantId } : GoalDefinition).IsConsistent :=
  ⟨⟨consistent.knownType, consistent.knownValueType, consistent.fixedValue, consistent.dynamicPath⟩,
    consistent.conditions, consistent.steps⟩

theorem isConsistent_moved_iff (siteId : Option Int) (tenantId : Option String) :
    ({ definition with siteId, tenantId } : GoalDefinition).IsConsistent ↔ definition.IsConsistent :=
  ⟨fun consistent => consistent.moved definition.siteId definition.tenantId,
    fun consistent => consistent.moved siteId tenantId⟩

theorem placedIn_everything (definition : GoalDefinition) :
    definition.placedIn .everything = definition := by
  simp [GoalDefinition.placedIn, Scope.everything]

end

end GoalDefinition

theorem Scope.admits_or_iff {α : Type} [DecidableEq α] (wanted actual : Option α) :
    admits wanted (actual <|> wanted) = admits wanted actual := by
  cases wanted <;> cases actual <;> simp [admits]

theorem Goal.isWithin_iff_liesIn {goal : Goal} {definition : GoalDefinition} {scope : Scope}
    (sameSite : goal.siteId = (definition.placedIn scope).siteId)
    (sameTenant : goal.tenantId = (definition.placedIn scope).tenantId) :
    goal.IsWithin scope ↔ definition.LiesIn scope := by
  rw [← goal.isVisible_iff, isVisible, sameSite, sameTenant]
  simp only [GoalDefinition.placedIn, GoalDefinition.LiesIn, Scope.sees, Scope.admits_or_iff]

theorem Goals.field?_scopedAttributes (scope : Scope) (attributes : Entries) (name : String) :
    (scopedAttributes scope attributes).field? name =
      ((attributes.field? name).or
        (if "site_id" = name then scope.siteId.map .int else none)).or
        (if "tenant_id" = name then scope.tenantId.map .text else none) := by
  unfold scopedAttributes
  cases scope.siteId <;> cases scope.tenantId <;> simp [Entries.field?_insertMissing]

namespace GoalsFile

theorem onlyFields_givenFields (definition : GoalDefinition) :
    GoalDefinition.OnlyFields (givenFields definition) :=
  fun entry member => definition.onlyFields_toEntries entry (List.mem_of_mem_filter member)

theorem field?_givenFields (definition : GoalDefinition) (name : String) :
    (givenFields definition).field? name =
      (definition.toEntries.field? name).filter fun value => !value.isNull := by
  have distinct : (Entries.names definition.toEntries).Nodup := by
    change GoalDefinition.fieldNames.Nodup
    decide
  exact Entries.field?_filter_given distinct name

theorem merge_unscopedFields (goal : Goal) (definition : GoalDefinition) :
    goal.toEntries.merge (unscopedFields definition) = (definition.inPlaceOf goal).toEntries := by
  simp [Goal.toEntries, unscopedFields, GoalDefinition.toEntries, Entries.merge, Entries.insert,
    Entries.contains, Value.text_equals_text, GoalDefinition.inPlaceOf, GoalDefinition.stepsValue]

theorem isPresentedBy_scopedAttributes (definition : GoalDefinition) (scope : Scope) :
    (definition.placedIn scope).IsPresentedBy
      (Goals.scopedAttributes scope (givenFields definition)) := by
  intro name _
  rw [Goals.field?_scopedAttributes, field?_givenFields]
  by_cases isSite : "site_id" = name
  · subst isSite
    rw [definition.writesOut_toEntries.siteId, (definition.placedIn scope).writesOut_toEntries.siteId]
    unfold GoalDefinition.placedIn
    cases definition.siteId <;> cases scope.siteId <;> simp [Value.isNull, Option.filter_some]
  · by_cases isTenant : "tenant_id" = name
    · subst isTenant
      rw [definition.writesOut_toEntries.tenantId,
        (definition.placedIn scope).writesOut_toEntries.tenantId]
      unfold GoalDefinition.placedIn
      cases definition.tenantId <;> cases scope.tenantId <;> simp [Value.isNull, Option.filter_some]
    · have same : (definition.placedIn scope).toEntries.field? name =
          definition.toEntries.field? name := by
        simp [GoalDefinition.toEntries, GoalDefinition.placedIn, isSite, isTenant,
          GoalDefinition.stepsValue]
      rw [same, if_neg isSite, if_neg isTenant, Option.or_none, Option.or_none]
      cases definition.toEntries.field? name with
      | none => exact Or.inl rfl
      | some value =>
          cases value with
          | null => exact Or.inr ⟨rfl, rfl⟩
          | _ => exact Or.inl rfl

theorem onlyFields_scopedAttributes (definition : GoalDefinition) (scope : Scope) :
    GoalDefinition.OnlyFields (Goals.scopedAttributes scope (givenFields definition)) := by
  have inserted {attributes : Entries} {name : String} {value : Value}
      (onlyFields : GoalDefinition.OnlyFields attributes) (isField : name ∈ GoalDefinition.fieldNames) :
      GoalDefinition.OnlyFields (attributes.insertMissing name value) := by
    intro entry member
    unfold Entries.insertMissing at member
    split at member
    · exact onlyFields entry member
    · rcases List.mem_append.mp member with isOld | isNew
      · exact onlyFields entry isOld
      · obtain rfl := List.mem_singleton.mp isNew
        exact ⟨name, isField, rfl⟩
  have given := onlyFields_givenFields definition
  unfold Goals.scopedAttributes
  cases scope.siteId with
  | none =>
      cases scope.tenantId with
      | none => exact given
      | some tenant => exact inserted given (by decide)
  | some site =>
      cases scope.tenantId with
      | none => exact inserted given (by decide)
      | some tenant => exact inserted (inserted given (by decide)) (by decide)

section

variable {definition : GoalDefinition} (wellFormed : definition.IsWellFormed)

include wellFormed

theorem validate_scopedAttributes_iff (scope : Scope) (result : GoalDefinition) :
    (GoalDefinition.validate (Goals.scopedAttributes scope (givenFields definition))).result =
        .ok result ↔ result = definition.placedIn scope ∧ definition.IsConsistent := by
  have placed := (wellFormed.moved _ _).validate_eq_ok_iff
    (onlyFields_scopedAttributes definition scope) (isPresentedBy_scopedAttributes definition scope)
    result
  rwa [GoalDefinition.isConsistent_moved_iff] at placed

theorem validate_unscopedFields_iff (goal : Goal) (result : GoalDefinition) :
    (GoalDefinition.validate (goal.toEntries.merge (unscopedFields definition))).result =
        .ok result ↔ result = definition.inPlaceOf goal ∧ definition.IsConsistent := by
  have placed := (wellFormed.moved goal.siteId goal.tenantId).validate_eq_ok_iff
    (GoalDefinition.onlyFields_toEntries _) (GoalDefinition.isPresentedBy_toEntries _) result
  rw [merge_unscopedFields]
  rwa [GoalDefinition.isConsistent_moved_iff] at placed

end

end GoalsFile

namespace GoalDefinition

def signupOn (site : Int) : GoalDefinition where
  name := "Signup"
  goalType := "event"
  description := none
  conditions := [("event_name", .text "signup")]
  valueType := "none"
  fixedValue := none
  dynamicPath := none
  allowMultiple := false
  isActive := true
  funnelSteps := none
  siteId := some site
  tenantId := none

theorem isWellFormed_signupOn (site : Int) : (signupOn site).IsWellFormed where
  nameGiven := by simp [signupOn]
  nameFits := (by decide : "Signup".length ≤ 255)
  conditions := List.nodup_singleton _
  steps := by simp [signupOn]

theorem isConsistent_signupOn (site : Int) : (signupOn site).IsConsistent where
  knownType := by simp [signupOn, goalTypes]
  knownValueType := by simp [signupOn, valueTypes]
  fixedValue := by simp [signupOn]
  dynamicPath := by simp [signupOn]
  conditions := by
    have reads : (Conditions.read "event" (Value.map [(.text "event_name", .text "signup")])).isOk =
        true := by decide +kernel
    change ∃ conditions, Conditions.read "event" (Value.map [(.text "event_name", .text "signup")]) = _
    cases read : Conditions.read "event" (Value.map [(.text "event_name", .text "signup")]) with
    | ok conditions => exact ⟨conditions, rfl⟩
    | error fault => simp [read, Except.isOk, Except.toBool] at reads
  steps := by simp [signupOn]

end GoalDefinition

end ConversionTracking
