import ConversionTracking.Proofs.Definition.Goal
import ConversionTracking.Proofs.Inheritance

/-!
Stored goals as definitions. Every goal that operations store holds a valid definition, and it is one
itself unless its storage lost what makes it one: a fixed value that is not a number, a threshold that
an equal number of another kind stands for, or the type of a step.
-/

namespace ConversionTracking

namespace Goal

structure Stores (goal : Goal) (definition : GoalDefinition) : Prop where
  siteId : goal.siteId = definition.siteId
  tenantId : goal.tenantId = definition.tenantId
  name : goal.name = definition.name
  description : goal.description = definition.description
  goalType : goal.goalType = definition.goalType
  conditions : Column.Holds definition.conditions.toValue goal.conditions
  valueType : goal.valueType = definition.valueType
  fixedValue : goal.fixedValue = definition.fixedValue.bind Column.keptNumber
  dynamicPath : goal.dynamicPath = definition.dynamicPath
  allowMultiple : goal.allowMultiple = definition.allowMultiple
  funnelSteps : Column.Holds definition.stepsValue goal.funnelSteps
  siteFits : ∀ site, goal.siteId = some site → checkWord site = .ok ()

def StoresValid (goal : Goal) : Prop :=
  ∃ definition : GoalDefinition,
    definition.IsWellFormed ∧ definition.IsConsistent ∧ goal.Stores definition

theorem ofParts_eq_ok_iff (id : Int) (definition : GoalDefinition) (conditions funnelSteps : Value)
    (goal : Goal) :
    ofParts id definition conditions funnelSteps = .ok goal ↔
      (∀ site, definition.siteId = some site → checkWord site = .ok ()) ∧
        goal = {
          id
          siteId := definition.siteId
          tenantId := definition.tenantId
          name := definition.name
          description := definition.description
          goalType := definition.goalType
          conditions
          valueType := definition.valueType
          fixedValue := definition.fixedValue.bind Column.keptNumber
          dynamicPath := definition.dynamicPath
          allowMultiple := definition.allowMultiple
          isActive := definition.isActive
          funnelSteps } := by
  unfold ofParts
  cases definition.siteId with
  | none => simp [pure, Except.pure, eq_comm]
  | some site =>
      rw [Except.bind_eq_ok_iff]
      simp only [Option.some.injEq, forall_eq']
      generalize checkWord site = fits
      cases fits <;> simp [pure, Except.pure, eq_comm]

theorem stores_of_ofParts {id : Int} {definition : GoalDefinition} {conditions funnelSteps : Value}
    {goal : Goal} (made : ofParts id definition conditions funnelSteps = .ok goal)
    (holdsConditions : Column.Holds definition.conditions.toValue conditions)
    (holdsSteps : Column.Holds definition.stepsValue funnelSteps) : goal.Stores definition := by
  obtain ⟨siteFits, rfl⟩ := (ofParts_eq_ok_iff _ _ _ _ _).mp made
  exact ⟨rfl, rfl, rfl, rfl, rfl, holdsConditions, rfl, rfl, rfl, rfl, holdsSteps, siteFits⟩

theorem stores_of_ofDefinition {id : Int} {definition : GoalDefinition} {goal : Goal}
    (made : ofDefinition id definition = .ok goal) : goal.Stores definition := by
  obtain ⟨conditions, writesConditions, made⟩ := Except.bind_eq_ok_iff.mp made
  obtain ⟨funnelSteps, writesSteps, made⟩ := Except.bind_eq_ok_iff.mp made
  exact stores_of_ofParts made (Column.holds_of_document writesConditions)
    (Column.holds_of_document writesSteps)

theorem stores_of_revised {stored goal : Goal} {definition earlier : GoalDefinition}
    (wasStored : stored.Stores earlier) (made : stored.revised definition = .ok goal) :
    goal.Stores definition := by
  obtain ⟨conditions, writesConditions, made⟩ := Except.bind_eq_ok_iff.mp made
  obtain ⟨funnelSteps, writesSteps, made⟩ := Except.bind_eq_ok_iff.mp made
  exact stores_of_ofParts made
    (Column.holds_of_rewritten wasStored.conditions.isDocument writesConditions)
    (Column.holds_of_rewritten wasStored.funnelSteps.isDocument writesSteps)

theorem Stores.switched {goal : Goal} {definition : GoalDefinition} (stores : goal.Stores definition)
    (isActive : Bool) : ({ goal with isActive } : Goal).Stores definition := ⟨stores.siteId,
  stores.tenantId, stores.name, stores.description, stores.goalType, stores.conditions,
  stores.valueType, stores.fixedValue, stores.dynamicPath, stores.allowMultiple, stores.funnelSteps,
  stores.siteFits⟩

def definition (goal : Goal) (conditions : Fields) (funnelSteps : Option (List Fields)) :
    GoalDefinition where
  name := goal.name
  goalType := goal.goalType
  description := goal.description
  conditions
  valueType := goal.valueType
  fixedValue := goal.fixedValue
  dynamicPath := goal.dynamicPath
  allowMultiple := goal.allowMultiple
  isActive := goal.isActive
  funnelSteps
  siteId := goal.siteId
  tenantId := goal.tenantId

/-- A threshold among the stored conditions is a number that its field does not take for its size. -/
def HasOversizedThreshold (goal : Goal) : Prop :=
  ∃ goalType contents, GoalType.ofName? goal.goalType = some goalType ∧
    goal.conditions = .map contents ∧ Conditions.HasOversizedThreshold contents goalType

/-- What a row has of a definition that is no longer valid as the row's own. -/
inductive IsSpoiled (goal : Goal) : Prop where
  | fixedValueLost (isFixed : goal.valueType = "fixed") (isLost : goal.fixedValue = none)
  | thresholdOversized (oversized : goal.HasOversizedThreshold)
  | stepTypeListed {steps : List Value} {step : Value} (areSteps : goal.funnelSteps = .list steps)
      (isStep : step ∈ steps) (listed : FunnelStep.HasListedType step)

theorem keptNumber_keptNumber (number : Option Binary64) :
    (number.bind Column.keptNumber).bind Column.keptNumber = number.bind Column.keptNumber := by
  cases number with
  | none => rfl
  | some number =>
      cases number with
      | finite negative units inRange => simp [Column.keptNumber]
      | infinite _ | nan => rfl

theorem exists_steps {steps : Option (List Fields)} {content : Value}
    (distinct : ∀ step ∈ steps.getD [], step.Distinct)
    (holds : Column.Holds
      ((steps.map fun steps => Value.list (steps.map Fields.toValue)).getD .null) content) :
    ∃ kept : Option (List Fields),
      content = ((kept.map fun steps => Value.list (steps.map Fields.toValue)).getD .null) ∧
        (∀ step ∈ kept.getD [], step.Distinct) ∧
        ∀ step ∈ kept.getD [], ∃ given ∈ steps.getD [], Column.Holds given.toValue step.toValue := by
  cases steps with
  | none => exact ⟨none, holds.eq_null_iff.mpr rfl, by simp, by simp⟩
  | some steps =>
      obtain ⟨contents, rfl, areHeld⟩ := Column.Holds.of_list holds
      rw [List.forall₂_map_left_iff] at areHeld
      have itemwise : ∃ kept : List Fields, contents = kept.map Fields.toValue ∧
          (∀ step ∈ kept, step.Distinct) ∧
          ∀ step ∈ kept, ∃ given ∈ steps, Column.Holds given.toValue step.toValue := by
        clear holds
        induction areHeld with
        | nil => exact ⟨[], rfl, by simp, by simp⟩
        | @cons step content rest others holdsFirst _ ih =>
            obtain ⟨first, isDistinct, rfl, _⟩ :=
              holdsFirst.of_toValue (distinct step List.mem_cons_self)
            obtain ⟨kept, rfl, areDistinct, areGiven⟩ := ih fun other member =>
              distinct other (List.mem_cons_of_mem step member)
            refine ⟨first :: kept, rfl, List.forall_mem_cons.mpr ⟨isDistinct, areDistinct⟩,
              List.forall_mem_cons.mpr ⟨⟨step, List.mem_cons_self, holdsFirst⟩, ?_⟩⟩
            intro other member
            obtain ⟨given, isGiven, holdsOther⟩ := areGiven other member
            exact ⟨given, List.mem_cons_of_mem step isGiven, holdsOther⟩
      obtain ⟨kept, rfl, areDistinct, areGiven⟩ := itemwise
      exact ⟨some kept, rfl, areDistinct, areGiven⟩

section

variable {goal : Goal} {given : GoalDefinition} (stores : goal.Stores given)

include stores

theorem Stores.revised_self {conditions : Fields} {steps : Option (List Fields)}
    (areConditions : goal.conditions = conditions.toValue)
    (areSteps : goal.funnelSteps = (goal.definition conditions steps).stepsValue) :
    goal.revised (goal.definition conditions steps) = .ok goal := by
  have keptValue : goal.fixedValue.bind Column.keptNumber = goal.fixedValue := by
    rw [stores.fixedValue, keptNumber_keptNumber]
  have sameConditions : (goal.definition conditions steps).conditions.toValue = goal.conditions :=
    areConditions.symm
  unfold revised
  rw [sameConditions, ← areSteps, Column.rewritten_self stores.conditions.isDocument,
    Column.rewritten_self stores.funnelSteps.isDocument]
  refine (ofParts_eq_ok_iff _ _ _ _ _).mpr ⟨stores.siteFits, ?_⟩
  simp only [definition, keptValue]

theorem Stores.exists_conditions (consistent : given.IsConsistent)
    (distinct : given.conditions.Distinct) :
    (∃ conditions, Conditions.read goal.goalType goal.conditions = .ok conditions) ∨
      goal.HasOversizedThreshold := by
  obtain ⟨read, reads⟩ := consistent.conditions
  obtain ⟨goalType, isType, valid⟩ := (Conditions.read_toValue_eq_ok_iff _ _ _).mp reads
  rw [← stores.goalType] at isType
  obtain ⟨kept, _, isKept, held⟩ := stores.conditions.of_toValue distinct
  rcases Conditions.isValid_ofEntries_of_heldBy held ⟨read, valid⟩ with
    ⟨conditions, stillValid⟩ | oversized
  · refine Or.inl ⟨conditions, ?_⟩
    rw [isKept]
    exact (Conditions.read_toValue_eq_ok_iff _ kept _).mpr ⟨goalType, isType, stillValid⟩
  · exact Or.inr ⟨goalType, kept.toEntries, isType, isKept, oversized⟩

theorem Stores.isConsistent_iff (consistent : given.IsConsistent) (distinct : given.conditions.Distinct)
    {conditions : Fields} {steps : Option (List Fields)}
    (areConditions : goal.conditions = conditions.toValue)
    (areSteps : goal.funnelSteps = (goal.definition conditions steps).stepsValue)
    (areGiven : ∀ step ∈ steps.getD [], ∃ given' ∈ given.funnelSteps.getD [],
      given'.Distinct ∧ Column.Holds given'.toValue step.toValue) :
    (goal.definition conditions steps).IsConsistent ↔ ¬goal.IsSpoiled := by
  constructor
  · rintro stillConsistent (⟨isFixed, isLost⟩ | ⟨_, _, isType, areContents, oversized⟩ |
      ⟨areListed, isStep, listed⟩)
    · exact stillConsistent.fixedValue isFixed isLost
    · obtain ⟨read, reads⟩ := stillConsistent.conditions
      obtain ⟨goalType, isRead, valid⟩ := (Conditions.read_toValue_eq_ok_iff _ _ _).mp reads
      obtain rfl := Option.some.inj (isType.symm.trans isRead)
      obtain rfl := Value.map.inj (areContents.symm.trans areConditions)
      exact Conditions.not_isValid_of_oversized oversized ⟨read, valid⟩
    · cases steps with
      | none =>
          rw [areListed] at areSteps
          contradiction
      | some steps =>
          obtain rfl := Value.list.inj (areListed.symm.trans areSteps)
          obtain ⟨step, isKept, rfl⟩ := List.mem_map.mp isStep
          exact FunnelStep.not_isReadable_of_listedType listed (stillConsistent.steps step isKept)
  · intro notSpoiled
    refine ⟨⟨?knownType, ?knownValueType, ?fixedValue, ?dynamicPath⟩, ?conditions, ?steps⟩
    case knownType =>
      rw [definition, stores.goalType]
      exact consistent.knownType
    case knownValueType =>
      rw [definition, stores.valueType]
      exact consistent.knownValueType
    case fixedValue => exact fun isFixed isLost => notSpoiled (.fixedValueLost isFixed isLost)
    case dynamicPath =>
      intro isDynamic
      have given := consistent.dynamicPath (stores.valueType ▸ isDynamic)
      rw [← stores.dynamicPath] at given
      exact given
    case conditions =>
      have stillRead := (stores.exists_conditions consistent distinct).resolve_right
        fun oversized => notSpoiled (.thresholdOversized oversized)
      rw [areConditions] at stillRead
      exact stillRead
    case steps =>
      intro step isStep
      obtain ⟨original, isOriginal, isDistinct, holds⟩ := areGiven step isStep
      rcases FunnelStep.isReadable_of_holds isDistinct holds (consistent.steps original isOriginal) with
        readable | listed
      · exact readable
      · cases steps with
        | none => contradiction
        | some steps =>
            exact absurd (.stepTypeListed areSteps (List.mem_map_of_mem isStep) listed) notSpoiled

end

/-- The row of a valid definition is written out as a definition that it is the row of, whose rules
hold unless the row is spoiled. -/
theorem StoresValid.exists_definition {goal : Goal} (valid : goal.StoresValid) :
    ∃ definition : GoalDefinition, definition.IsWellFormed ∧
      definition.toEntries = goal.toEntries ∧ goal.revised definition = .ok goal ∧
      (definition.IsConsistent ↔ ¬goal.IsSpoiled) := by
  obtain ⟨given, wellFormed, consistent, stores⟩ := valid
  obtain ⟨conditions, distinct, areConditions, _⟩ :=
    stores.conditions.of_toValue wellFormed.conditions
  obtain ⟨steps, areSteps, areDistinct, areGiven⟩ :=
    exists_steps wellFormed.steps stores.funnelSteps
  refine ⟨goal.definition conditions steps, ⟨?_, ?_, distinct, areDistinct⟩, ?_, ?_, ?_⟩
  · rw [definition, stores.name]
    exact wellFormed.nameGiven
  · rw [definition, stores.name]
    exact wellFormed.nameFits
  · simp only [GoalDefinition.toEntries, toEntries, GoalDefinition.stepsValue, definition,
      ← areConditions, ← areSteps]
  · exact stores.revised_self areConditions areSteps
  · refine stores.isConsistent_iff consistent wellFormed.conditions areConditions areSteps ?_
    intro step isStep
    obtain ⟨original, isOriginal, holds⟩ := areGiven step isStep
    exact ⟨original, isOriginal, wellFormed.steps original isOriginal, holds⟩

end Goal

namespace Database

def StoresValid (database : Database) : Prop := ∀ goal ∈ database.goals, goal.StoresValid

theorem mem_replaceGoal {database : Database} {changed goal : Goal}
    (member : goal ∈ (database.replaceGoal changed).goals) :
    goal = changed ∨ goal ∈ database.goals := by
  obtain ⟨old, isOld, rfl⟩ := List.mem_map.mp member
  split
  · exact Or.inl rfl
  · exact Or.inr isOld

theorem replaceGoal_self {database : Database} (distinct : database.GoalIdsDistinct) {goal : Goal}
    (held : goal ∈ database.goals) : database.replaceGoal goal = database := by
  have kept : database.goals.map (fun other => if other.id = goal.id then goal else other) =
      database.goals.map id := by
    apply List.map_congr_left
    intro other member
    by_cases same : other.id = goal.id
    · rw [if_pos same]
      exact (List.inj_on_of_nodup_map distinct member held same).symm
    · rw [if_neg same]
      rfl
  unfold replaceGoal
  rw [kept, List.map_id]

theorem GoalChange.storesValid {before after : Database} (change : before.GoalChange after)
    (valid : before.StoresValid) : after.StoresValid := by
  intro goal member
  cases change with
  | added isValid made =>
      rcases List.mem_append.mp member with isOld | isNew
      · exact valid goal isOld
      · obtain rfl := List.mem_singleton.mp isNew
        obtain ⟨wellFormed, consistent⟩ := GoalDefinition.isWellFormed_of_validate isValid
        exact ⟨_, wellFormed, consistent, Goal.stores_of_ofDefinition made⟩
  | revised held isValid made =>
      rcases mem_replaceGoal member with rfl | isOld
      · obtain ⟨_, _, _, wasStored⟩ := valid _ held
        obtain ⟨wellFormed, consistent⟩ := GoalDefinition.isWellFormed_of_validate isValid
        exact ⟨_, wellFormed, consistent, Goal.stores_of_revised wasStored made⟩
      · exact valid goal isOld
  | switched held isActive =>
      rcases mem_replaceGoal member with rfl | isOld
      · obtain ⟨definition, wellFormed, consistent, stores⟩ := valid _ held
        exact ⟨definition, wellFormed, consistent, stores.switched isActive⟩
      · exact valid goal isOld

theorem storesValid_empty (ids : IdDraw) : (empty ids).StoresValid := by
  intro goal member
  contradiction

theorem GoalChanges.storesValid {before after : Database} (changes : before.GoalChanges after)
    (valid : before.StoresValid) : after.StoresValid := by
  induction changes with
  | refl => exact valid
  | tail _ change ih => exact change.storesValid ih

end Database

namespace Operation

theorem storesValid_after (operation : Operation) {database : Database}
    (valid : database.StoresValid) : (operation.after database).StoresValid := by
  cases operation with
  | service scope call =>
      rcases call.after_cases scope database with changes | ⟨_, goalId, _, removed⟩
      · exact changes.storesValid valid
      · intro goal member
        simp only [after, removed] at member
        exact valid goal (List.mem_of_mem_filter member)
  | insert fields =>
      simp only [after, Conversions.after_insert]
      exact valid
  | evaluate settings trigger session visitor =>
      simp only [after, Matcher.after_evaluate]
      exact valid

theorem storesValid_run (operations : List Operation) {database : Database}
    (valid : database.StoresValid) : (run operations database).StoresValid := by
  induction operations generalizing database with
  | nil => exact valid
  | cons operation rest ih => exact ih (operation.storesValid_after valid)

/-- A stored goal is a valid definition of itself, and an update without changes succeeds and returns
it, exactly when its row is not spoiled. Such an update leaves everything as it is in any case. -/
theorem stored_definition_iff {ids : IdDraw} (operations : List Operation) {goal : Goal}
    (isStored : goal ∈ (run operations (.empty ids)).goals) :
    ((∃ definition, (GoalDefinition.validate goal.toEntries).result = .ok definition ∧
        definition.toEntries = goal.toEntries) ↔ ¬goal.IsSpoiled) ∧
      ∀ scope target,
        (Goals.resolve scope target).result (run operations (.empty ids)) = .ok (some goal) →
        ((Goals.update scope target []).result (run operations (.empty ids)) = .ok (some goal) ↔
            ¬goal.IsSpoiled) ∧
          (Goals.update scope target []).after (run operations (.empty ids)) =
            run operations (.empty ids) := by
  have valid := storesValid_run operations (Database.storesValid_empty ids) goal isStored
  obtain ⟨definition, wellFormed, writtenOut, unchanged, consistent⟩ := valid.exists_definition
  have validates (result : GoalDefinition) :
      (GoalDefinition.validate goal.toEntries).result = .ok result ↔
        result = definition ∧ ¬goal.IsSpoiled := by
    rw [← writtenOut, ← consistent]
    exact wellFormed.validate_eq_ok_iff definition.onlyFields_toEntries
      definition.isPresentedBy_toEntries result
  refine ⟨?_, fun scope target found => ?_⟩
  · constructor
    · rintro ⟨result, isValid, _⟩
      exact ((validates result).mp isValid).2
    · intro notSpoiled
      exact ⟨definition, (validates definition).mpr ⟨rfl, notSpoiled⟩, writtenOut⟩
  · have updates (result : Goal) :
        (Goals.updateGoal goal []).result (run operations (.empty ids)) = .ok result ↔
          result = goal ∧ ¬goal.IsSpoiled := by
      have bound := Goals.result_updateGoal (run operations (.empty ids)) goal []
      have noChanges : goal.toEntries.merge [] = goal.toEntries := rfl
      change _ = (_ >>= _) at bound
      rw [bound, Except.bind_eq_ok_iff, noChanges]
      simp only [validates]
      constructor
      · rintro ⟨_, ⟨rfl, notSpoiled⟩, made⟩
        exact ⟨(Except.ok.inj (made.symm.trans unchanged)), notSpoiled⟩
      · rintro ⟨rfl, notSpoiled⟩
        exact ⟨definition, ⟨rfl, notSpoiled⟩, unchanged⟩
    rw [Goals.result_update, Goals.after_update, found]
    dsimp only
    rw [Goals.after_updateGoal]
    cases updated : (Goals.updateGoal goal []).result (run operations (.empty ids)) with
    | error fault =>
        refine ⟨iff_of_false (by simp [Except.map]) fun notSpoiled => ?_, rfl⟩
        have succeeds := (updates goal).mpr ⟨rfl, notSpoiled⟩
        rw [updated] at succeeds
        contradiction
    | ok result =>
        obtain ⟨rfl, notSpoiled⟩ := (updates result).mp updated
        have distinct := (regular_run operations (Database.regular_empty ids)).idsDistinct
        exact ⟨iff_of_true rfl notSpoiled, Database.replaceGoal_self distinct isStored⟩

def createSignup : Operation := .service .everything (.create signupAttributes)

theorem signup_defines_itself :
    ∃ goal ∈ (run [createSignup] .empty).goals,
      (∃ definition, (GoalDefinition.validate goal.toEntries).result = .ok definition ∧
        definition.toEntries = goal.toEntries) ∧
      (Goals.update .everything (.goal (some goal)) []).result (run [createSignup] .empty) =
        .ok (some goal) := by
  obtain ⟨goal, isStored⟩ :=
    List.exists_mem_of_length_pos (l := (run [createSignup] .empty).goals) (by decide +kernel)
  have plain : ∀ goal ∈ (run [createSignup] .empty).goals, (goal.valueType == "none" &&
      goal.goalType == "event" && goal.funnelSteps.isNull &&
      (goal.conditions.entries?.map fun contents =>
        (Entries.field? contents "min_value").isNone) == some true) = true := by
    rw [← List.all_eq_true]
    decide +kernel
  have isPlain := plain goal isStored
  simp only [Bool.and_eq_true, beq_iff_eq] at isPlain
  obtain ⟨⟨⟨isUnvalued, isEvent⟩, noSteps⟩, noThreshold⟩ := isPlain
  have notSpoiled : ¬goal.IsSpoiled := by
    rintro (⟨isFixed, _⟩ | ⟨_, _, isType, areContents, oversized⟩ | ⟨areSteps, _, _⟩)
    · rw [isUnvalued] at isFixed
      exact absurd isFixed (by decide)
    · rw [isEvent] at isType
      obtain rfl := Option.some.inj isType
      rw [areContents] at noThreshold
      cases oversized with
      | minValue found _ => simp [Value.entries?, found] at noThreshold
    · rw [areSteps] at noSteps
      contradiction
  obtain ⟨defines, updates⟩ := stored_definition_iff [createSignup] isStored
  exact ⟨goal, isStored, defines.mpr notSpoiled,
    (updates .everything (.goal (some goal)) rfl).1.mpr notSpoiled⟩

def createPriceless : Operation :=
  .service .everything (.create
    [(.text "name", .text "Priceless"), (.text "type", .text "event"),
      (.text "value_type", .text "fixed"), (.text "fixed_value", .float .nan)])

/-- The stored goal is no definition of itself, and an update without changes is refused. -/
theorem priceless_not_updatable :
    let stored := run [createPriceless] .empty
    let refused : Except Fault Unit := .error (GoalDefinition.inconsistent .fixedValueMissing)
    stored.goalIds = [1] ∧
      (stored.goals.map fun goal =>
        (GoalDefinition.validate goal.toEntries).result.map fun _ => ()) = [refused] ∧
      ((Goals.update .everything (.id 1) []).result stored).map (fun _ => ()) = refused := by
  decide +kernel

end Operation

end ConversionTracking
