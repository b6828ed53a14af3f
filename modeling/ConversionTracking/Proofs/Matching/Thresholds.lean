import ConversionTracking.Matching.Check
import ConversionTracking.Proofs.Condition.Coherence

/-!
The thresholds of goals beside the operator `gte`. A duration reaches its threshold when it passes the
operator. The value of an event is enough when it is not below its threshold, which is the same unless
one of the two is NaN: NaN is not below any number, and passes no comparison.
-/

namespace ConversionTracking

namespace Binary64

theorem not_less_iff (number threshold : Binary64) :
    number.less threshold = false ↔
      threshold.lessOrEqual number = true ∨ number = .nan ∨ threshold = .nan := by
  by_cases notNumber : number = .nan
  · subst notNumber
    exact iff_of_true rfl (.inr (.inl rfl))
  · by_cases notThreshold : threshold = .nan
    · subst notThreshold
      refine iff_of_true ?_ (.inr (.inr rfl))
      cases number <;> rfl
    · obtain ⟨order, isOrder, isSwapped⟩ := exists_compare? notNumber notThreshold
      rw [less_of_compare? isOrder, lessOrEqual_of_compare? isSwapped]
      cases order <;> simp [notNumber, notThreshold]

end Binary64

namespace Value

/-- The value has a numeric reading, and this or the threshold is NaN. -/
def MeetsNaN (value : Value) (threshold : Binary64) : Prop :=
  ∃ number, value.toNumber = .ok (some number) ∧ (number = .nan ∨ threshold = .nan)

variable (value : Value) (threshold : Binary64)

theorem passes_gte_float_iff :
    value.Passes (.text "gte") (.float threshold) ↔
      ∃ number, value.toNumber = .ok (some number) ∧ threshold.lessOrEqual number = true := by
  rw [passes_gte_iff]
  constructor
  · rintro ⟨number, _, isRead, targetRead, reached⟩
    cases targetRead
    exact ⟨number, isRead, reached⟩
  · rintro ⟨number, isRead, reached⟩
    exact ⟨number, threshold, isRead, rfl, reached⟩

variable {value threshold}

theorem MeetsNaN.not_passes_gte (meetsNaN : value.MeetsNaN threshold) :
    ¬value.Passes (.text "gte") (.float threshold) := by
  rw [passes_gte_float_iff]
  rintro ⟨other, isRead, reached⟩
  obtain ⟨number, isNumber, isNaN⟩ := meetsNaN
  obtain rfl := Option.some.inj (Except.ok.inj (isNumber.symm.trans isRead))
  obtain ⟨thresholdIsNumber, isNumber⟩ := Binary64.isNumber_of_lessOrEqual reached
  exact isNaN.elim isNumber thresholdIsNumber

end Value

theorem reaches_eq_ok_iff (value : Value) (threshold : Binary64) :
    reaches value threshold = .ok true ↔ value.Passes (.text "gte") (.float threshold) := by
  rw [Value.passes_gte_float_iff, reaches, Except.bind_eq_ok_iff]
  cases value.toNumber with
  | error fault => simp [Except.mapError]
  | ok reading => cases reading <;> simp [Except.mapError, pure, Except.pure]

namespace EventConditions

def withLeast (conditions : EventConditions) (least : Option Binary64) : EventConditions :=
  { conditions with minValue := least }

variable (event : EventTrigger) (least : Binary64)

theorem valueIsEnough_eq :
    valueIsEnough (.event event) (some least) =
      (event.value.toNumber.mapError .number).map fun reading =>
        reading.any fun number => !number.less least := by
  have required : (Trigger.event event).require .value = .ok event.value := rfl
  rw [valueIsEnough, required]
  simp only [bind, Except.bind]
  cases event.value.toNumber with
  | error fault => rfl
  | ok reading => cases reading <;> rfl

theorem valueIsEnough_eq_ok_iff :
    valueIsEnough (.event event) (some least) = .ok true ↔
      event.value.Passes (.text "gte") (.float least) ∨ event.value.MeetsNaN least := by
  rw [valueIsEnough_eq, Value.passes_gte_float_iff, Value.MeetsNaN, ← exists_or]
  simp only [← and_or_left, ← Binary64.not_less_iff]
  cases event.value.toNumber with
  | error fault => simp [Except.mapError, Except.map]
  | ok reading => cases reading <;> simp [Except.mapError, Except.map]

theorem result_guarded_iff (test : Except Fault Bool) (rest : Outcome Bool) :
    (do if !(← test) then return false else rest : Outcome Bool).result = .ok true ↔
      test = .ok true ∧ rest.result = .ok true := by
  change (Outcome.ofExcept test >>= _ : Outcome Bool).result = _ ↔ _
  rw [Outcome.result_bind, Outcome.result_ofExcept]
  cases test with
  | error fault => simp
  | ok passed => cases passed <;> simp

theorem satisfiedBy_iff (conditions : EventConditions) (trigger : Trigger) :
    (conditions.satisfiedBy trigger).result = .ok true ↔
      fieldIs trigger .name conditions.name = .ok true ∧
        fieldIs trigger .category conditions.category = .ok true ∧
        valueIsEnough trigger conditions.minValue = .ok true ∧
        (do
          let properties ← Outcome.ofExcept (trigger.require .properties)
          propertiesMeet (givenProperties properties) conditions.properties).result = .ok true := by
  rw [← result_guarded_iff, ← result_guarded_iff, ← result_guarded_iff]
  rfl

theorem satisfiedBy_withLeast_iff (conditions : EventConditions) :
    ((conditions.withLeast (some least)).satisfiedBy (.event event)).result = .ok true ↔
      ((conditions.withLeast none).satisfiedBy (.event event)).result = .ok true ∧
        valueIsEnough (.event event) (some least) = .ok true := by
  have unasked : valueIsEnough (.event event) none = .ok true := rfl
  rw [satisfiedBy_iff, satisfiedBy_iff]
  simp only [withLeast, unasked]
  tauto

end EventConditions

/-- An event whose value is enough for a threshold has a value that passes `gte`, unless NaN is met: NaN
as a value or as a threshold is enough for a value that is read as a number, and passes no comparison.
Durations reach their threshold just when they pass `gte`. -/
theorem thresholds_compare (conditions : EventConditions) (least : Binary64) (event : EventTrigger)
    (session : SessionTrigger) :
    let isEnough := EventConditions.valueIsEnough (.event event) (some least)
    let passes := event.value.Passes (.text "gte") (.float least)
    let satisfied := ((conditions.withLeast (some least)).satisfiedBy (.event event)).result
    (satisfied = .ok true ↔
      ((conditions.withLeast none).satisfiedBy (.event event)).result = .ok true ∧
        isEnough = .ok true) ∧
    (∀ reading, event.value.toNumber = .ok reading → ∃ answer, isEnough = .ok answer) ∧
    (isEnough = .ok true ↔ passes ∨ event.value.MeetsNaN least) ∧
    ((isEnough = .ok true ↔ passes) ↔ ¬event.value.MeetsNaN least) ∧
    (satisfied = .ok true → ∃ number, event.value.toNumber = .ok (some number) ∧
      (least.lessOrEqual number = true ∨ number = .nan ∨ least = .nan)) ∧
    (((Conditions.duration least).satisfiedBy (.session session)).result = .ok true ↔
      session.duration.Passes (.text "gte") (.float least)) := by
  intro isEnough passes satisfied
  have enough_iff := EventConditions.valueIsEnough_eq_ok_iff event least
  have satisfied_iff := EventConditions.satisfiedBy_withLeast_iff event least conditions
  refine ⟨satisfied_iff, fun reading isRead => ?_, enough_iff, ?_, fun isSatisfied => ?_,
    reaches_eq_ok_iff session.duration least⟩
  · refine ⟨reading.any fun number => !number.less least, ?_⟩
    change EventConditions.valueIsEnough _ _ = _
    rw [EventConditions.valueIsEnough_eq, isRead]
    rfl
  · constructor
    · intro agree meetsNaN
      exact meetsNaN.not_passes_gte (agree.mp (enough_iff.mpr (.inr meetsNaN)))
    · intro noNaN
      exact enough_iff.trans (or_iff_left noNaN)
  · rcases enough_iff.mp (satisfied_iff.mp isSatisfied).2 with passed | ⟨number, isRead, isNaN⟩
    · obtain ⟨number, isRead, reached⟩ := (Value.passes_gte_float_iff _ _).mp passed
      exact ⟨number, isRead, .inl reached⟩
    · exact ⟨number, isRead, .inr isNaN⟩

/-- A purchase that is worth NaN satisfies a threshold of one, but NaN does not pass `gte`. -/
theorem nan_is_enough :
    let worth : Value := .float .nan
    let purchase : EventTrigger :=
      { name := .text "purchase", category := .null, properties := .null, value := worth
        sessionId := .null, visitorId := .null, path := .null, id := .null }
    let conditions : EventConditions :=
      { name := none, category := none, minValue := some (Binary64.ofNat 1), properties := [] }
    worth.toNumber = .ok (some .nan) ∧
      (conditions.satisfiedBy (.event purchase)).result = .ok true ∧
      ¬worth.Passes (.text "gte") (.float (Binary64.ofNat 1)) := by
  refine ⟨rfl, rfl, ?_⟩
  exact Value.MeetsNaN.not_passes_gte ⟨.nan, rfl, .inl rfl⟩

end ConversionTracking
