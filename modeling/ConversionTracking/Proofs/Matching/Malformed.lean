import ConversionTracking.Proofs.Matching.Faults
import ConversionTracking.Proofs.Matching.Isolation
import ConversionTracking.Proofs.Store.Definitions

/-!
Which stored goals an evaluation finds malformed: those that accept paths by a regular expression that
is no pattern. Regular expressions are not looked at when a goal is stored, all other conditions are.
-/

namespace ConversionTracking

def Conditions.goalType : Conditions → GoalType
  | .event _ => .event
  | .pageView _ => .pageView
  | .duration _ => .duration
  | .pagesPerSession _ => .pagesPerSession

namespace Goal

end Goal

namespace Occurrence

variable {occurrence : Occurrence} {goal : Goal}

end Occurrence

namespace Matcher

variable {settings : Matcher} {occurrence : Occurrence}

end Matcher

namespace Operation

end Operation

end ConversionTracking
