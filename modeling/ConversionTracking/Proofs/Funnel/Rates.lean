import ConversionTracking.Proofs.Number.Magnitude
import ConversionTracking.Web.Respond

/-!
The numbers of funnel reports. Rates of counts that fit the row ids of a table are finite, so that a
report can be sent when the names of its steps can.
-/

namespace ConversionTracking

namespace Value

theorem areFinite_eq (items : List Value) : areFinite items = items.all isFinite := by
  induction items with
  | nil => rfl
  | cons item rest ih => rw [areFinite, ih, List.all_cons]

theorem isFinite_record (fields : List (String × Value)) :
    (record fields).isFinite = fields.all fun field => field.2.isFinite := by
  rw [record, isFinite]
  induction fields with
  | nil => rfl
  | cons field rest ih => rw [List.map_cons, haveFiniteValues, ih, List.all_cons]

@[simp] theorem isFinite_int (value : Int) : (Value.int value).isFinite = true := by
  simp [isFinite]

@[simp] theorem isFinite_text (value : String) : (Value.text value).isFinite = true := by
  simp [isFinite]

theorem isFinite_list_iff (items : List Value) :
    (Value.list items).isFinite = true ↔ ∀ item ∈ items, item.isFinite = true := by
  rw [isFinite, areFinite_eq, List.all_eq_true]

theorem isFinite_float {number : Binary64} {bound : Nat} (atMost : number.IsAtMost bound) :
    (Value.float number).isFinite = true := by
  obtain ⟨negative, units, inRange, rfl⟩ := atMost.exists_finite
  rw [isFinite]

end Value

def mostRows : Nat := 2 ^ 64

open Binary64

theorem hundred_isAtMost : hundred.IsAtMost 201 :=
  (isAtMost_ofRatio false 100 1 (by decide)).weaken (by decide)

theorem ratePercent_isAtMost {count : Nat} (few : count ≤ mostRows) (whole : Nat) :
    (ratePercent count whole).IsAtMost (2 ^ 76) := by
  unfold mostRows at few
  rw [ratePercent]
  split
  · exact isAtMost_signedZero false _
  · have quotient := isAtMost_ofRatio false count whole (by omega)
    have percent := quotient.mul hundred_isAtMost (by omega)
    exact (percent.roundPlaces ratePlaces (by omega)).weaken (by omega)

theorem ratePercent_isNotTiny {count : Nat} (few : count ≤ mostRows) (whole : Nat)
    (positive : zero.less (ratePercent count whole) = true) :
    (ratePercent count whole).IsNotTiny := by
  have atMost := ratePercent_isAtMost few whole
  rw [ratePercent] at positive atMost ⊢
  split at positive
  · exact absurd positive (by decide)
  · rename_i isWhole
    rw [if_neg isWhole] at atMost ⊢
    exact isNotTiny_roundPlaces atMost positive

structure StepResult.IsModerate (result : StepResult) : Prop where
  conversionRate : result.conversionRate.IsAtMost (2 ^ 76)
  dropoffRate : result.dropoffRate.IsAtMost (2 ^ 79)

theorem StepResult.IsModerate.isFinite_body {result : StepResult} (moderate : result.IsModerate) :
    result.body.isFinite = result.name.isFinite := by
  rw [body, Value.isFinite_record]
  simp [Value.isFinite_float moderate.conversionRate, Value.isFinite_float moderate.dropoffRate]

theorem StepResult.isFinite_bodies_iff {results : List StepResult}
    (moderate : ∀ result ∈ results, result.IsModerate) :
    (Value.list (results.map StepResult.body)).isFinite = true ↔
      ∀ result ∈ results, result.name.isFinite = true := by
  rw [Value.isFinite_list_iff, List.forall_mem_map]
  refine forall₂_congr fun result isResult => ?_
  rw [(moderate result isResult).isFinite_body]

structure FunnelReport.IsModerate (report : FunnelReport) : Prop where
  steps : ∀ result ∈ report.steps, result.IsModerate
  overall : report.overallConversion.IsAtMost (2 ^ 76)
  notTiny : zero.less report.overallConversion = true → report.overallConversion.IsNotTiny

def FunnelReport.HasFiniteNames (report : FunnelReport) : Prop :=
  ∀ result ∈ report.steps, result.name.isFinite = true

namespace Funnel

theorem stepResult_isModerate (configured : ConfiguredStep) (position : Nat)
    (previous : Option Nat) {visitors : Nat} (few : visitors ≤ mostRows) :
    (stepResult configured position previous visitors).IsModerate := by
  cases previous with
  | none =>
      constructor
      · simp only [stepResult]
        exact hundred_isAtMost.weaken (by decide)
      · simp only [stepResult, Option.isNone_none, if_true]
        exact isAtMost_signedZero false _
  | some previous =>
      have rate := ratePercent_isAtMost few previous
      have rest := hundred_isAtMost.sub rate (by decide)
      constructor
      · simp only [stepResult]
        exact rate
      · simp only [stepResult, Option.isNone_some, Bool.false_eq_true, if_false]
        exact (rest.roundPlaces ratePlaces (by decide)).weaken (by decide)

theorem mem_stepResults {position : Nat} {previous : Option Nat}
    {steps : List (ConfiguredStep × Nat)} {result : StepResult}
    (isResult : result ∈ stepResults position previous steps) :
    ∃ step ∈ steps, ∃ position previous, result = stepResult step.1 position previous step.2 := by
  induction steps generalizing position previous with
  | nil => simp [stepResults] at isResult
  | cons step rest ih =>
      rw [stepResults, List.mem_cons] at isResult
      rcases isResult with rfl | later
      · exact ⟨step, List.mem_cons_self, position, previous, rfl⟩
      · obtain ⟨other, member, place⟩ := ih later
        exact ⟨other, List.mem_cons_of_mem step member, place⟩

variable (funnel : Funnel) (range : DateRange) (steps : List ConfiguredStep) {visitors : List Nat}

theorem report_isModerate (few : ∀ count ∈ visitors, count ≤ mostRows) :
    (funnel.report range steps visitors).IsModerate := by
  have fewCompleted : visitors.getLast?.getD 0 ≤ mostRows := by
    cases last : visitors.getLast? with
    | none => exact Nat.zero_le _
    | some count => exact few count (List.mem_of_getLast? last)
  constructor
  · intro result isResult
    obtain ⟨step, member, position, previous, rfl⟩ := mem_stepResults isResult
    exact stepResult_isModerate step.1 position previous (few _ (List.of_mem_zip member).2)
  · exact ratePercent_isAtMost fewCompleted _
  · exact ratePercent_isNotTiny fewCompleted _

end Funnel

theorem DateRange.isFinite_body (range : DateRange) : range.body.isFinite = true := by
  rw [body, Value.isFinite_record]
  simp

theorem FunnelReport.IsModerate.isFinite_body_iff {report : FunnelReport}
    (moderate : report.IsModerate) : report.body.isFinite = true ↔ report.HasFiniteNames := by
  rw [HasFiniteNames, ← StepResult.isFinite_bodies_iff moderate.steps, body, Value.isFinite_record]
  simp [DateRange.isFinite_body, Value.isFinite_float moderate.overall]

theorem FunnelReport.mem_ranking {report : FunnelReport} {result : StepResult}
    (isRanked : result ∈ report.ranking) : result ∈ report.steps :=
  List.mem_of_mem_tail ((List.mergeSort_perm _ _).mem_iff.mp isRanked)

namespace ComparisonReport

theorem roundedDifference_isAtMost {current previous : Binary64}
    (currentAtMost : current.IsAtMost (2 ^ 76)) (previousAtMost : previous.IsAtMost (2 ^ 76)) :
    (roundedDifference current previous).IsAtMost (2 ^ 80) := by
  have difference := currentAtMost.sub previousAtMost (by decide)
  exact (difference.roundPlaces ratePlaces (by decide)).weaken (by decide)

theorem percentOf_isAtMost {change previous : Binary64} (current : Binary64)
    (atMost : change.IsAtMost (2 ^ 80)) (notTiny : zero.less previous = true → previous.IsNotTiny) :
    (percentOf change current previous).IsAtMost (2 ^ 99) := by
  rw [percentOf]
  split
  · rename_i positive
    have ratio := atMost.div (notTiny positive) (by decide)
    have percent := ratio.mul hundred_isAtMost (by decide)
    exact (percent.roundPlaces ratePlaces (by decide)).weaken (by decide)
  · split
    · exact hundred_isAtMost.weaken (by decide)
    · exact isAtMost_signedZero false _

theorem mem_stepChanges {current previous : List StepResult} {change : StepChange}
    (isChange : change ∈ List.zipWith stepChange current previous) :
    ∃ result ∈ current, ∃ earlier ∈ previous, change = stepChange result earlier := by
  rw [← List.map_uncurry_zip_eq_zipWith, List.mem_map] at isChange
  obtain ⟨⟨result, earlier⟩, member, rfl⟩ := isChange
  exact ⟨result, (List.of_mem_zip member).1, earlier, (List.of_mem_zip member).2, rfl⟩

theorem isFinite_body_iff {current previous : FunnelReport} (currentModerate : current.IsModerate)
    (previousModerate : previous.IsModerate) :
    (ofReports current previous).body.isFinite = true ↔
      current.HasFiniteNames ∧ previous.HasFiniteNames := by
  have change := roundedDifference_isAtMost currentModerate.overall previousModerate.overall
  have percent := percentOf_isAtMost current.overallConversion change previousModerate.notTiny
  have changes (names : current.HasFiniteNames) :
      (Value.list ((List.zipWith stepChange current.steps previous.steps).map
        StepChange.body)).isFinite = true := by
    rw [Value.isFinite_list_iff, List.forall_mem_map]
    intro change isChange
    obtain ⟨result, isResult, earlier, isEarlier, rfl⟩ := mem_stepChanges isChange
    have currentRate := (currentModerate.steps result isResult).conversionRate
    have previousRate := (previousModerate.steps earlier isEarlier).conversionRate
    rw [StepChange.body, Value.isFinite_record]
    simp [stepChange, names result isResult, Value.isFinite_float currentRate,
      Value.isFinite_float previousRate,
      Value.isFinite_float (roundedDifference_isAtMost currentRate previousRate)]
  rw [body, Value.isFinite_record, ← currentModerate.isFinite_body_iff,
    ← previousModerate.isFinite_body_iff]
  simp only [ofReports, List.all_cons, List.all_nil, Value.isFinite_float change,
    Value.isFinite_float percent, Value.isFinite_text, Bool.and_eq_true, true_and, and_true]
  constructor
  · rintro ⟨currentFinite, previousFinite, _⟩
    exact ⟨currentFinite, previousFinite⟩
  · rintro ⟨currentFinite, previousFinite⟩
    exact ⟨currentFinite, previousFinite, changes (currentModerate.isFinite_body_iff.mp currentFinite)⟩

end ComparisonReport

end ConversionTracking
