import ConversionTracking.Calendar.DateRange
import ConversionTracking.Definition.Step
import ConversionTracking.Value.Text

/-!
Funnel reports: the visitors of every step, how many of the step before they are, and the steps at
which most visitors are lost.
-/

namespace ConversionTracking

structure Funnel where
  goalId : Int
  goalName : String
  steps : Value

/-- How many visitors a step has in a range, given the number of steps that were counted before. -/
abbrev VisitorCount := Nat → FunnelStep → DateRange → Outcome Nat

structure ConfiguredStep where
  raw : Value
  step : Option FunnelStep

namespace ConfiguredStep

def name (configured : ConfiguredStep) (position : Nat) : Value :=
  let given :=
    match configured.step with
    | some step => (step.name.map Value.text).getD .null
    | none => Entries.field (configured.raw.entries?.getD []) "name"
  if given.isGiven then given else .text ("Step " ++ decimalText position)

def typeName (configured : ConfiguredStep) : String :=
  match configured.step with
  | some step => step.typeName
  | none =>
      let given := Entries.field (configured.raw.entries?.getD []) "type"
      if given.isGiven then given.plainText else "unknown"

end ConfiguredStep

structure StepResult where
  step : Nat
  name : Value
  typeName : String
  visitors : Nat
  conversionRate : Binary64
  dropoffRate : Binary64
  dropoffCount : Nat

structure FunnelReport where
  goalId : Int
  goalName : String
  range : DateRange
  steps : List StepResult
  overallConversion : Binary64
  entryVisitors : Nat
  completedVisitors : Nat

def ratePlaces : Nat := 2

def hundred : Binary64 := Binary64.ofNat 100

def ratePercent (count whole : Nat) : Binary64 :=
  if whole = 0 then .zero else ((Binary64.ofRatio false count whole).mul hundred).roundPlaces ratePlaces

def FunnelReport.ranking (report : FunnelReport) : List StepResult :=
  report.steps.tail.mergeSort fun left right => right.dropoffRate.lessOrEqual left.dropoffRate

namespace Funnel

def rawSteps (funnel : Funnel) : Except ConfigurationFault (List Value) :=
  if !funnel.steps.isGiven then .error (.noFunnelSteps funnel.goalName)
  else
    match funnel.steps with
    | .list steps => .ok steps
    | _ => .error (.stepsNotList funnel.goalName)

def configuredSteps (funnel : Funnel) : Outcome (List ConfiguredStep) := do
  let raw ← Outcome.ofExcept (funnel.rawSteps.mapError .configuration)
  let steps ← FunnelStep.readAll raw
  return List.zipWith ConfiguredStep.mk raw steps

def countSteps (count : VisitorCount) (range : DateRange) :
    Nat → List ConfiguredStep → Outcome (List Nat)
  | _, [] => pure []
  | counted, configured :: rest =>
      match configured.step with
      | none => return 0 :: (← countSteps count range counted rest)
      | some step => do
          let visitors ← count counted step range
          return visitors :: (← countSteps count range (counted + 1) rest)

def stepResult (configured : ConfiguredStep) (position : Nat) (previous : Option Nat)
    (visitors : Nat) : StepResult :=
  let rate :=
    match previous with
    | none => hundred
    | some previous => ratePercent visitors previous
  { step := position
    name := configured.name position
    typeName := configured.typeName
    visitors
    conversionRate := rate
    dropoffRate := if previous.isNone then .zero else (hundred.sub rate).roundPlaces ratePlaces
    dropoffCount := previous.getD 0 - visitors }

def stepResults : Nat → Option Nat → List (ConfiguredStep × Nat) → List StepResult
  | _, _, [] => []
  | position, previous, (configured, visitors) :: rest =>
      stepResult configured position previous visitors
        :: stepResults (position + 1) (some visitors) rest

def report (funnel : Funnel) (range : DateRange) (steps : List ConfiguredStep)
    (visitors : List Nat) : FunnelReport :=
  let entry := visitors.head?.getD 0
  let completed := visitors.getLast?.getD 0
  { goalId := funnel.goalId
    goalName := funnel.goalName
    range
    steps := stepResults 1 none (steps.zip visitors)
    overallConversion := ratePercent completed entry
    entryVisitors := entry
    completedVisitors := completed }

def analyze (funnel : Funnel) (count : VisitorCount) (range : DateRange) :
    Outcome FunnelReport := do
  let steps ← funnel.configuredSteps
  let visitors ← countSteps count range 0 steps
  return funnel.report range steps visitors

def bottlenecks (funnel : Funnel) (count : VisitorCount) (range : DateRange) (limit : Int) :
    Outcome (List StepResult) :=
  if limit ≤ 0 then pure []
  else do
    let report ← funnel.analyze count range
    return report.ranking.take limit.toNat

end Funnel

end ConversionTracking
