import ConversionTracking.Proofs.Calendar.PreviousPeriods
import ConversionTracking.Proofs.Funnel.Proportions
import ConversionTracking.Proofs.Number.Differences

/-!
The changes between two ranges. Rates are hundredths, so that their rounded difference has the sign of
the exact one, and the trend tells the order of the two rates. With the ranges the other way around,
every change has the opposite sign.
-/

namespace ConversionTracking

open Binary64

theorem hundred_isHundredths : IsHundredths hundred := by
  have isNearest : hundred = ofRatio false 10000 100 := by decide +kernel
  rw [isNearest]
  exact isHundredths_ofRatio 10000

theorem ratePercent_isHundredths (count whole : Nat) : IsHundredths (ratePercent count whole) := by
  by_cases isZero : whole = 0
  · rw [ratePercent, if_pos isZero, ← ofRatio_zero 100]
    exact isHundredths_ofRatio 0
  · obtain ⟨units, inRange, positive, isHundred⟩ := hundred_eq
    have unsigned : IsUnsigned (ofRatio false count whole) := isUnsigned_ofUnits _ _
    rw [ratePercent_of_pos count (Nat.pos_of_ne_zero isZero), isHundred]
    exact (unsigned.mul positive inRange).isHundredths_roundPlaces

namespace Trend

def opposite : Trend → Trend
  | .up => .down
  | .down => .up
  | .stable => .stable

def ofOrder : Ordering → Trend
  | .lt => .down
  | .eq => .stable
  | .gt => .up

structure Tells (trend : Trend) (current previous : Binary64) : Prop where
  up : trend.name = "up" ↔ previous.less current = true
  down : trend.name = "down" ↔ current.less previous = true
  stable : trend.name = "stable" ↔ current.equals previous = true

theorem tells_ofOrder {current previous : Binary64} {order : Ordering}
    (isOrder : compare? current previous = some order)
    (isSwapped : compare? previous current = some order.swap) :
    (ofOrder order).Tells current previous := by
  constructor
  · rw [less_of_compare? isSwapped]
    cases order <;> decide
  · rw [less_of_compare? isOrder]
    cases order <;> decide
  · rw [equals_of_compare? isOrder]
    cases order <;> decide

end Trend

namespace ComparisonReport

theorem areOpposite_roundedDifference (current previous : Binary64) :
    AreOpposite (roundedDifference current previous) (roundedDifference previous current) :=
  (areOpposite_sub current previous).roundPlaces ratePlaces

theorem trendOf_of_opposite {change reverse : Binary64} (opposite : AreOpposite change reverse) :
    trendOf change = (trendOf reverse).opposite := by
  rw [trendOf, trendOf, opposite.zero_less, ← opposite.symm.zero_less]
  cases falls : reverse.less zero with
  | true => simp [less_asymm falls, Trend.opposite]
  | false => cases zero.less reverse <;> rfl

theorem trendOf_tells {current previous : Binary64} (currentRate : IsHundredths current)
    (previousRate : IsHundredths previous) :
    (trendOf (roundedDifference current previous)).Tells current previous := by
  obtain ⟨order, isOrder, isSwapped⟩ := exists_compare? currentRate.ne_nan previousRate.ne_nan
  have trend : trendOf (roundedDifference current previous) = .ofOrder order := by
    cases order with
    | gt =>
        have rises : zero.less (roundedDifference current previous) = true :=
          zero_less_roundPlaces_sub currentRate previousRate (less_of_compare? isSwapped)
        rw [trendOf, if_pos rises, Trend.ofOrder]
    | lt =>
        have falls : zero.less (roundedDifference previous current) = true :=
          zero_less_roundPlaces_sub previousRate currentRate (less_of_compare? isOrder)
        rw [trendOf_of_opposite (areOpposite_roundedDifference current previous), trendOf,
          if_pos falls, Trend.opposite, Trend.ofOrder]
    | eq =>
        obtain rfl := currentRate.eq_of_equals previousRate (equals_of_compare? isOrder)
        obtain ⟨notAbove, notBelow⟩ := (areOpposite_roundedDifference current current).level
        rw [trendOf, notAbove, notBelow]
        rfl
  rw [trend]
  exact Trend.tells_ofOrder isOrder isSwapped

end ComparisonReport

namespace StepResult

structure Matches (current previous : StepResult) : Prop where
  step : current.step = previous.step
  name : current.name = previous.name
  currentRate : IsHundredths current.conversionRate
  previousRate : IsHundredths previous.conversionRate

end StepResult

structure StepChange.Reverses (change reverse : StepChange) : Prop where
  step : change.step = reverse.step
  name : change.name = reverse.name
  currentRate : change.currentRate = reverse.previousRate
  previousRate : change.previousRate = reverse.currentRate
  rateChange : AreOpposite change.rateChange reverse.rateChange
  currentVisitors : change.currentVisitors = reverse.previousVisitors
  previousVisitors : change.previousVisitors = reverse.currentVisitors
  visitorChange : change.visitorChange = -reverse.visitorChange

namespace ComparisonReport

structure Reverses (report reverse : ComparisonReport) : Prop where
  current : report.current = reverse.previous
  previous : report.previous = reverse.current
  change : AreOpposite report.change reverse.change
  trend : report.trend = reverse.trend.opposite
  stepChanges : List.Forall₂ StepChange.Reverses report.stepChanges reverse.stepChanges

/-- Each step of both reports has its change, and no change is hidden or invented: the trend tells which
of the two overall conversions is higher, and the sign of a step's change which of its rates is. -/
structure IsFaithful (report : ComparisonReport) : Prop where
  currentLength : report.stepChanges.length = report.current.steps.length
  previousLength : report.stepChanges.length = report.previous.steps.length
  trend : report.trend.Tells report.current.overallConversion report.previous.overallConversion
  steps : ∀ change ∈ report.stepChanges,
    (trendOf change.rateChange).Tells change.currentRate change.previousRate

variable {currents previouses : List StepResult}

theorem stepChange_reverses {current previous : StepResult} (matched : current.Matches previous) :
    (stepChange current previous).Reverses (stepChange previous current) where
  step := matched.step
  name := matched.name
  currentRate := rfl
  previousRate := rfl
  rateChange := areOpposite_roundedDifference _ _
  currentVisitors := rfl
  previousVisitors := rfl
  visitorChange := (Int.neg_sub _ _).symm

theorem stepChanges_reverse (matched : List.Forall₂ StepResult.Matches currents previouses) :
    List.Forall₂ StepChange.Reverses (List.zipWith stepChange currents previouses)
      (List.zipWith stepChange previouses currents) := by
  induction matched with
  | nil => exact .nil
  | cons first _ ih => exact .cons (stepChange_reverses first) ih

theorem stepChanges_tell (matched : List.Forall₂ StepResult.Matches currents previouses) :
    ∀ change ∈ List.zipWith stepChange currents previouses,
      (trendOf change.rateChange).Tells change.currentRate change.previousRate := by
  induction matched with
  | nil =>
      intro change isChange
      contradiction
  | cons first _ ih =>
      rw [List.zipWith_cons_cons, List.forall_mem_cons]
      exact ⟨trendOf_tells first.currentRate first.previousRate, ih⟩

theorem ofReports_reverses {current previous : FunnelReport}
    (matched : List.Forall₂ StepResult.Matches current.steps previous.steps) :
    (ofReports current previous).Reverses (ofReports previous current) where
  current := rfl
  previous := rfl
  change := areOpposite_roundedDifference current.overallConversion previous.overallConversion
  trend := trendOf_of_opposite
    (areOpposite_roundedDifference current.overallConversion previous.overallConversion)
  stepChanges := stepChanges_reverse matched

theorem ofReports_isFaithful {current previous : FunnelReport}
    (matched : List.Forall₂ StepResult.Matches current.steps previous.steps)
    (currentRate : IsHundredths current.overallConversion)
    (previousRate : IsHundredths previous.overallConversion) :
    (ofReports current previous).IsFaithful where
  currentLength := List.length_zipWith.trans (Nat.min_eq_left (Nat.le_of_eq matched.length_eq))
  previousLength := List.length_zipWith.trans (Nat.min_eq_right (Nat.le_of_eq matched.length_eq.symm))
  trend := trendOf_tells currentRate previousRate
  steps := stepChanges_tell matched

end ComparisonReport

namespace Funnel

variable {funnel : Funnel} {count earlierCount : VisitorCount} {range earlier : DateRange}
  {current previous : FunnelReport}

theorem conversionRate_isHundredths (configured : ConfiguredStep) (position : Nat)
    (before : Option Nat) (visitors : Nat) :
    IsHundredths (stepResult configured position before visitors).conversionRate := by
  simp only [stepResult]
  cases before with
  | none => exact hundred_isHundredths
  | some before => exact ratePercent_isHundredths visitors before

theorem stepResults_match (position : Nat) (before otherBefore : Option Nat)
    {steps : List ConfiguredStep} {visitors others : List Nat}
    (sameLength : visitors.length = others.length) :
    List.Forall₂ StepResult.Matches (stepResults position before (steps.zip visitors))
      (stepResults position otherBefore (steps.zip others)) := by
  induction steps generalizing position before otherBefore visitors others with
  | nil => exact .nil
  | cons configured rest ih =>
      cases visitors with
      | nil =>
          obtain rfl := List.eq_nil_of_length_eq_zero sameLength.symm
          exact .nil
      | cons first visitors =>
          obtain ⟨other, others, rfl⟩ := List.exists_cons_of_length_eq_add_one sameLength.symm
          have matched : (stepResult configured position before first).Matches
              (stepResult configured position otherBefore other) :=
            ⟨rfl, rfl, conversionRate_isHundredths _ _ _ _, conversionRate_isHundredths _ _ _ _⟩
          exact .cons matched (ih (position + 1) (some first) (some other) (Nat.succ.inj sameLength))

theorem steps_match (isCurrent : (funnel.analyze count range).result = .ok current)
    (isPrevious : (funnel.analyze earlierCount earlier).result = .ok previous) :
    List.Forall₂ StepResult.Matches current.steps previous.steps := by
  obtain ⟨steps, visitors, areSteps, areVisitors, rfl⟩ := analyze_eq_ok_iff.mp isCurrent
  obtain ⟨others, otherVisitors, areOthers, areOtherVisitors, rfl⟩ :=
    analyze_eq_ok_iff.mp isPrevious
  obtain rfl := Except.ok.inj (areSteps.symm.trans areOthers)
  have sameLength := (length_of_countSteps areVisitors).trans
    (length_of_countSteps areOtherVisitors).symm
  exact stepResults_match 1 none none sameLength

theorem overallConversion_isHundredths
    (isReport : (funnel.analyze count range).result = .ok current) :
    IsHundredths current.overallConversion := by
  obtain ⟨steps, visitors, _, _, rfl⟩ := analyze_eq_ok_iff.mp isReport
  exact ratePercent_isHundredths _ _

theorem compare_of_analyses (isCurrent : (funnel.analyze count range).result = .ok current)
    (isPrevious : (funnel.analyze earlierCount earlier).result = .ok previous) :
    (funnel.compare count earlierCount range earlier).result = .ok (.ofReports current previous) := by
  rw [Funnel.compare, Outcome.bind_eq_ok_iff]
  refine ⟨current, isCurrent, ?_⟩
  rw [Outcome.bind_eq_ok_iff]
  exact ⟨previous, isPrevious, rfl⟩

/-- When a funnel can be analyzed in two ranges, it can be compared both ways around. The comparisons
reverse each other, and rounding neither hides nor invents a change. -/
theorem compare_reverses (isCurrent : (funnel.analyze count range).result = .ok current)
    (isPrevious : (funnel.analyze count earlier).result = .ok previous) :
    ∃ report reverse,
      (funnel.compare count count range earlier).result = .ok report ∧
      (funnel.compare count count earlier range).result = .ok reverse ∧
      report.current = current ∧ report.previous = previous ∧
      report.Reverses reverse ∧ report.IsFaithful := by
  have matched := steps_match isCurrent isPrevious
  refine ⟨_, _, compare_of_analyses isCurrent isPrevious, compare_of_analyses isPrevious isCurrent,
    rfl, rfl, ?_, ?_⟩
  · exact ComparisonReport.ofReports_reverses matched
  · exact ComparisonReport.ofReports_isFaithful matched (overallConversion_isHundredths isCurrent)
      (overallConversion_isHundredths isPrevious)

def dailyVisits : VisitorCount :=
  fun asked _ range => pure (if asked = 0 then 100 else range.days.toNat)

theorem month_above_day :
    ∃ month day report reverse,
      ((pricedSignups.analyze dailyVisits DateRange.marchRange).result = .ok month ∧
        (pricedSignups.analyze dailyVisits Database.signupRange).result = .ok day) ∧
      (pricedSignups.compare dailyVisits dailyVisits DateRange.marchRange
        Database.signupRange).result = .ok report ∧
      (pricedSignups.compare dailyVisits dailyVisits Database.signupRange
        DateRange.marchRange).result = .ok reverse ∧
      report.trend = .up ∧ reverse.trend = .down ∧ report.Reverses reverse := by
  obtain ⟨month, _, _, isMonth, _, _, _, monthRate⟩ :=
    exists_pricedSignups dailyVisits DateRange.marchRange 100 DateRange.marchRange.days.toNat
      (fun _ => rfl) fun _ => rfl
  obtain ⟨day, _, _, isDay, _, _, _, dayRate⟩ :=
    exists_pricedSignups dailyVisits Database.signupRange 100 Database.signupRange.days.toNat
      (fun _ => rfl) fun _ => rfl
  obtain ⟨report, reverse, isReport, isReverse, rfl, rfl, reverses, faithful⟩ :=
    compare_reverses isMonth isDay
  have higher : report.previous.overallConversion.less report.current.overallConversion = true := by
    rw [monthRate, dayRate]
    decide +kernel
  have isUp : report.trend = .up := by
    have named := faithful.trend.up.mpr higher
    cases isTrend : report.trend <;> simp [isTrend, Trend.name] at named ⊢
  have isDown : reverse.trend = .down := by
    have opposite := reverses.trend
    cases isTrend : reverse.trend <;> simp [isUp, isTrend, Trend.opposite] at opposite ⊢
  exact ⟨report.current, report.previous, report, reverse, ⟨isMonth, isDay⟩, isReport, isReverse,
    isUp, isDown, reverses⟩

end Funnel

end ConversionTracking
