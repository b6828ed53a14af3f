import ConversionTracking.Funnel.Report

/-!
One funnel in two ranges.
-/

namespace ConversionTracking

inductive Trend where
  | up
  | down
  | stable
deriving DecidableEq, Repr

def Trend.name : Trend → String
  | .up => "up"
  | .down => "down"
  | .stable => "stable"

structure StepChange where
  step : Nat
  name : Value
  currentRate : Binary64
  previousRate : Binary64
  rateChange : Binary64
  currentVisitors : Nat
  previousVisitors : Nat
  visitorChange : Int

structure ComparisonReport where
  current : FunnelReport
  previous : FunnelReport
  change : Binary64
  changePercent : Binary64
  trend : Trend
  stepChanges : List StepChange

namespace ComparisonReport

def roundedDifference (current previous : Binary64) : Binary64 :=
  (current.sub previous).roundPlaces ratePlaces

def stepChange (current previous : StepResult) : StepChange where
  step := current.step
  name := current.name
  currentRate := current.conversionRate
  previousRate := previous.conversionRate
  rateChange := roundedDifference current.conversionRate previous.conversionRate
  currentVisitors := current.visitors
  previousVisitors := previous.visitors
  visitorChange := (current.visitors : Int) - previous.visitors

/-- A change in percent of the previous value. From nothing, every growth counts as a hundred. -/
def percentOf (change current previous : Binary64) : Binary64 :=
  if Binary64.zero.less previous then ((change.div previous).mul hundred).roundPlaces ratePlaces
  else if Binary64.zero.less current then hundred
  else .zero

def trendOf (change : Binary64) : Trend :=
  if Binary64.zero.less change then .up
  else if change.less .zero then .down
  else .stable

def ofReports (current previous : FunnelReport) : ComparisonReport :=
  let change := roundedDifference current.overallConversion previous.overallConversion
  { current
    previous
    change
    changePercent := percentOf change current.overallConversion previous.overallConversion
    trend := trendOf change
    stepChanges := List.zipWith stepChange current.steps previous.steps }

end ComparisonReport

/-- Compares a range with an earlier one. `earlierCount` counts visitors for the earlier one. -/
def Funnel.compare (funnel : Funnel) (count earlierCount : VisitorCount)
    (range earlier : DateRange) : Outcome ComparisonReport := do
  let current ← funnel.analyze count range
  let previous ← funnel.analyze earlierCount earlier
  return .ofReports current previous

end ConversionTracking
