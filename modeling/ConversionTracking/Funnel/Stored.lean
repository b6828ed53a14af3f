import ConversionTracking.Funnel.Comparison
import ConversionTracking.Funnel.Visitors
import ConversionTracking.Store.Goals

/-!
The funnels of stored goals over the stored facts.
-/

namespace ConversionTracking

def Goal.funnel (goal : Goal) : Funnel where
  goalId := goal.id
  goalName := goal.name
  steps := goal.funnelSteps

def Database.visitorCount (database : Database) (scope : Scope) : VisitorCount :=
  fun _ step range => return (← database.distinctVisitors scope step range).length

namespace FunnelReports

def analyze (scope : Scope) (goal : Goal) (range : DateRange) : Work FunnelReport :=
  Work.inspect fun database => goal.funnel.analyze (database.visitorCount scope) range

def compare (scope : Scope) (goal : Goal) (range earlier : DateRange) : Work ComparisonReport :=
  Work.inspect fun database =>
    goal.funnel.compare (database.visitorCount scope) (database.visitorCount scope) range earlier

def bottlenecks (scope : Scope) (goal : Goal) (range : DateRange) (limit : Int) :
    Work (List StepResult) :=
  Work.inspect fun database => goal.funnel.bottlenecks (database.visitorCount scope) range limit

end FunnelReports

end ConversionTracking
