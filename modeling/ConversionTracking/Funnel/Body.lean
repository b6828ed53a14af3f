import ConversionTracking.Funnel.Comparison

/-!
Funnel reports as values, in the form in which they are sent.
-/

namespace ConversionTracking

namespace Value

def record (fields : List (String × Value)) : Value :=
  .map (fields.map fun field => (.text field.1, field.2))

end Value

namespace DateRange

def body (range : DateRange) : Value :=
  Value.record [("start", .text range.firstDay.text), ("end", .text range.lastDay.text)]

end DateRange

namespace StepResult

def body (result : StepResult) : Value :=
  Value.record
    [("step", .int result.step), ("name", result.name), ("type", .text result.typeName),
      ("visitors", .int result.visitors), ("conversion_rate", .float result.conversionRate),
      ("dropoff_rate", .float result.dropoffRate), ("dropoff_count", .int result.dropoffCount)]

end StepResult

namespace FunnelReport

def body (report : FunnelReport) : Value :=
  Value.record
    [("goal_id", .int report.goalId), ("goal_name", .text report.goalName),
      ("date_range", report.range.body), ("steps", .list (report.steps.map StepResult.body)),
      ("overall_conversion", .float report.overallConversion),
      ("total_steps", .int report.steps.length),
      ("total_dropoff", .int ((report.entryVisitors : Int) - report.completedVisitors)),
      ("entry_visitors", .int report.entryVisitors),
      ("completed_visitors", .int report.completedVisitors)]

end FunnelReport

namespace StepChange

def body (change : StepChange) : Value :=
  Value.record
    [("step", .int change.step), ("name", change.name),
      ("current_rate", .float change.currentRate), ("previous_rate", .float change.previousRate),
      ("rate_change", .float change.rateChange),
      ("current_visitors", .int change.currentVisitors),
      ("previous_visitors", .int change.previousVisitors),
      ("visitor_change", .int change.visitorChange)]

end StepChange

namespace ComparisonReport

def body (report : ComparisonReport) : Value :=
  Value.record
    [("current", report.current.body), ("previous", report.previous.body),
      ("change", .float report.change), ("change_percent", .float report.changePercent),
      ("trend", .text report.trend.name),
      ("step_changes", .list (report.stepChanges.map StepChange.body))]

end ComparisonReport

end ConversionTracking
