import ConversionTracking.Proofs.Funnel.StepResults
import ConversionTracking.Proofs.Number.Order
import Mathlib.Algebra.Order.Field.Rat

/-!
Rates and the proportions that they stand for. A rate goes through a rounded quotient, a rounded product
and a rounding to two decimal places, and each of them keeps the order of what it is given, so that a
higher proportion of visitors never gets a lower rate, nor a higher drop-off.
-/

namespace ConversionTracking

open Binary64

theorem hundred_eq : ∃ units inRange, 0 < units ∧ hundred = .finite false units inRange := by
  have inRange : 100 < wholeLimit := by decide +kernel
  obtain ⟨limited, isFinite⟩ := ofRatio_whole false inRange
  have rounds : roundedNat 100 = 100 := by decide +kernel
  refine ⟨_, limited, ?_, isFinite⟩
  rw [rounds]
  exact Nat.mul_pos (by decide) unitsPerOne_pos

def remainder (rate : Binary64) : Binary64 := (hundred.sub rate).roundPlaces ratePlaces

theorem ratePercent_of_pos (count : Nat) {whole : Nat} (positive : 0 < whole) :
    ratePercent count whole = ((ofRatio false count whole).mul hundred).roundPlaces ratePlaces := by
  rw [ratePercent, if_neg positive.ne']

theorem percent_lessOrEqual {left right : Binary64} (atMost : left.lessOrEqual right = true) :
    ((left.mul hundred).roundPlaces ratePlaces).lessOrEqual
      ((right.mul hundred).roundPlaces ratePlaces) = true := by
  obtain ⟨units, inRange, positive, isHundred⟩ := hundred_eq
  rw [isHundred]
  exact (keepsOrder_roundPlaces ratePlaces).lessOrEqual
    ((keepsOrder_mul inRange positive).lessOrEqual atMost)

theorem ratePercent_lessOrEqual {count whole otherCount otherWhole : Nat} (positive : 0 < whole)
    (otherPositive : 0 < otherWhole) (atMost : count * otherWhole ≤ otherCount * whole) :
    (ratePercent count whole).lessOrEqual (ratePercent otherCount otherWhole) = true := by
  rw [ratePercent_of_pos count positive, ratePercent_of_pos otherCount otherPositive]
  exact percent_lessOrEqual (ofRatio_lessOrEqual positive otherPositive atMost)

theorem ratePercent_ne_nan (count whole : Nat) : ratePercent count whole ≠ .nan := by
  by_cases isZero : whole = 0
  · rw [ratePercent, if_pos isZero]
    exact ne_nan_of_place? rfl
  · have positive := Nat.pos_of_ne_zero isZero
    exact (isNumber_of_lessOrEqual
      (ratePercent_lessOrEqual positive positive (Nat.le_refl (count * whole)))).1

theorem remainder_lessOrEqual {left right : Binary64} (atMost : left.lessOrEqual right = true) :
    (remainder right).lessOrEqual (remainder left) = true := by
  obtain ⟨units, inRange, _, isHundred⟩ := hundred_eq
  rw [remainder, remainder, isHundred]
  exact (keepsOrder_roundPlaces ratePlaces).lessOrEqual (sub_lessOrEqual false inRange atMost)

theorem remainder_ne_nan {rate : Binary64} (isNumber : rate ≠ .nan) : remainder rate ≠ .nan :=
  (isNumber_of_lessOrEqual (remainder_lessOrEqual (lessOrEqual_self isNumber))).1

theorem ofRatio_self {whole : Nat} (positive : 0 < whole) :
    ofRatio false whole whole = ofRatio false 1 1 := by
  have rounds := roundUnits_mul_right unitsPerOne 1 positive
  rw [Nat.mul_comm, Nat.one_mul] at rounds
  simp only [ofRatio, ofUnits, rounds, Nat.one_mul]

theorem ofRatio_zero (whole : Nat) : ofRatio false 0 whole = .zero := by
  have rounds := roundUnits_zero whole
  rw [ofRatio, Nat.zero_mul]
  simp only [ofUnits, rounds, dif_pos unitsLimit_pos]
  rfl

theorem ratePercent_self {whole : Nat} (positive : 0 < whole) : ratePercent whole whole = hundred := by
  rw [ratePercent_of_pos whole positive, ofRatio_self positive]
  decide +kernel

theorem ratePercent_none {whole : Nat} (positive : 0 < whole) : ratePercent 0 whole = .zero := by
  rw [ratePercent_of_pos 0 positive, ofRatio_zero]
  decide +kernel

theorem remainder_hundred : remainder hundred = .zero := by decide +kernel

theorem remainder_zero : remainder .zero = hundred := by decide +kernel

namespace Funnel

variable {funnel otherFunnel : Funnel} {count otherCount : VisitorCount} {range otherRange : DateRange}
  {report other : FunnelReport} {before result otherBefore otherResult : StepResult}

theorem dropoffRate_stepResult (configured : ConfiguredStep) (place previous visitors : Nat) :
    (stepResult configured place (some previous) visitors).dropoffRate =
      remainder (ratePercent visitors previous) := by
  simp only [stepResult, Option.isNone_some, Bool.false_eq_true, if_false, remainder]

theorem rates_of_consecutive (isReport : (funnel.analyze count range).result = .ok report)
    (consecutive : [before, result] <:+: report.steps) :
    result.conversionRate = ratePercent result.visitors before.visitors ∧
      result.dropoffRate = remainder result.conversionRate := by
  obtain ⟨steps, visitors, _, _, rfl⟩ := analyze_eq_ok_iff.mp isReport
  obtain ⟨configured, place, isResult⟩ := exists_stepResult_of_consecutive consecutive
  have rate : result.conversionRate = ratePercent result.visitors before.visitors :=
    congrArg StepResult.conversionRate isResult
  have dropoff : result.dropoffRate = remainder (ratePercent result.visitors before.visitors) :=
    (congrArg StepResult.dropoffRate isResult).trans (dropoffRate_stepResult _ _ _ _)
  exact ⟨rate, rate ▸ dropoff⟩

/-- A step that keeps no higher proportion of the visitors of the step before it than another one, in
whatever reports, has no higher conversion rate and no lower drop-off. All of the visitors are exactly a
hundred percent, and none of them exactly zero. -/
theorem rates_follow_proportions (isReport : (funnel.analyze count range).result = .ok report)
    (isOther : (otherFunnel.analyze otherCount otherRange).result = .ok other)
    (consecutive : [before, result] <:+: report.steps)
    (otherConsecutive : [otherBefore, otherResult] <:+: other.steps)
    (positive : 0 < before.visitors) (otherPositive : 0 < otherBefore.visitors) :
    ((result.visitors : ℚ) / before.visitors ≤ otherResult.visitors / otherBefore.visitors →
      result.conversionRate.lessOrEqual otherResult.conversionRate = true ∧
        otherResult.dropoffRate.lessOrEqual result.dropoffRate = true) ∧
    (result.visitors = before.visitors →
      result.conversionRate = hundred ∧ result.dropoffRate = .zero) ∧
    (result.visitors = 0 → result.conversionRate = .zero ∧ result.dropoffRate = hundred) := by
  obtain ⟨rate, dropoff⟩ := rates_of_consecutive isReport consecutive
  obtain ⟨otherRate, otherDropoff⟩ := rates_of_consecutive isOther otherConsecutive
  refine ⟨fun atMost => ?_, fun all => ?_, fun none => ?_⟩
  · have products : result.visitors * otherBefore.visitors ≤
        otherResult.visitors * before.visitors := by
      rw [div_le_div_iff₀ (by exact_mod_cast positive) (by exact_mod_cast otherPositive)] at atMost
      exact_mod_cast atMost
    have rates := ratePercent_lessOrEqual positive otherPositive products
    rw [dropoff, otherDropoff, rate, otherRate]
    exact ⟨rates, remainder_lessOrEqual rates⟩
  · rw [dropoff, rate, all, ratePercent_self positive]
    exact ⟨rfl, remainder_hundred⟩
  · rw [dropoff, rate, none, ratePercent_none positive]
    exact ⟨rfl, remainder_zero⟩

def pricedSignups : Funnel where
  goalId := 1
  goalName := "Priced signups"
  steps := .list
    [.map [(.text "type", .text "event"), (.text "name", .text "signup")],
      .map [(.text "type", .text "pageview"), (.text "path", .text "/pricing")]]

def listedCount (counts : List Nat) : VisitorCount :=
  fun asked _ _ => pure (counts[asked]?.getD 0)

theorem exists_pricedSignups (count : VisitorCount) (range : DateRange) (signups visits : Nat)
    (first : ∀ step, count 0 step range = pure signups)
    (second : ∀ step, count 1 step range = pure visits) :
    ∃ report before result, (pricedSignups.analyze count range).result = .ok report ∧
      report.steps = [before, result] ∧ before.visitors = signups ∧ result.visitors = visits ∧
      report.overallConversion = ratePercent visits signups := by
  have known : pricedSignups.configuredSteps.result.map (·.map (·.step.isSome)) =
      .ok [true, true] := by
    decide +kernel
  cases areSteps : pricedSignups.configuredSteps.result with
  | error fault =>
      rw [areSteps] at known
      cases known
  | ok steps =>
      rw [areSteps] at known
      obtain ⟨signup, _, rfl, signupKnown, known⟩ := List.map_eq_cons_iff.mp (Except.ok.inj known)
      obtain ⟨visit, _, rfl, visitKnown, known⟩ := List.map_eq_cons_iff.mp known
      obtain rfl := List.map_eq_nil_iff.mp known
      obtain ⟨signupStep, isSignup⟩ := Option.isSome_iff_exists.mp signupKnown
      obtain ⟨visitStep, isVisit⟩ := Option.isSome_iff_exists.mp visitKnown
      have counted : (countSteps count range 0 [signup, visit]).result = .ok [signups, visits] := by
        simp [countSteps, isSignup, isVisit, first, second, Outcome.result_bind]
      exact ⟨_, _, _, analyze_eq_ok_iff.mpr ⟨_, _, areSteps, counted, rfl⟩, rfl, rfl, rfl, rfl⟩

theorem four_of_seven_below_two_of_three :
    ∃ report other before result otherBefore otherResult,
      ((pricedSignups.analyze (listedCount [7, 4]) Database.signupRange).result = .ok report ∧
        (pricedSignups.analyze (listedCount [3, 2]) Database.signupRange).result = .ok other ∧
        [before, result] <:+: report.steps ∧ [otherBefore, otherResult] <:+: other.steps ∧
        0 < before.visitors ∧ 0 < otherBefore.visitors) ∧
      result.conversionRate.lessOrEqual otherResult.conversionRate = true ∧
      otherResult.dropoffRate.lessOrEqual result.dropoffRate = true := by
  obtain ⟨report, before, result, isReport, steps, isBefore, isResult, _⟩ :=
    exists_pricedSignups (listedCount [7, 4]) Database.signupRange 7 4 (fun _ => rfl) fun _ => rfl
  obtain ⟨other, otherBefore, otherResult, isOther, otherSteps, isOtherBefore, isOtherResult, _⟩ :=
    exists_pricedSignups (listedCount [3, 2]) Database.signupRange 3 2 (fun _ => rfl) fun _ => rfl
  have consecutive : [before, result] <:+: report.steps := steps ▸ List.infix_refl _
  have otherConsecutive : [otherBefore, otherResult] <:+: other.steps :=
    otherSteps ▸ List.infix_refl _
  have positive : 0 < before.visitors := by omega
  have otherPositive : 0 < otherBefore.visitors := by omega
  have rates := (rates_follow_proportions isReport isOther consecutive otherConsecutive positive
    otherPositive).1 (by rw [isBefore, isResult, isOtherBefore, isOtherResult]; norm_num)
  exact ⟨report, other, before, result, otherBefore, otherResult,
    ⟨isReport, isOther, consecutive, otherConsecutive, positive, otherPositive⟩, rates⟩

end Funnel

end ConversionTracking
