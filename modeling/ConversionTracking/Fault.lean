import ConversionTracking.Calendar.Fault
import ConversionTracking.Definition.Issue
import ConversionTracking.Number.Fault
import ConversionTracking.Pattern.Syntax

/-!
The ways in which an operation can fail, by cause, and the texts of those that have one.
-/

namespace ConversionTracking

inductive ConfigurationFault where
  | noFunnelSteps (goal : String)
  | stepsNotList (goal : String)
  | goalsFileMissing (path : String)
  | goalsFileUnreadable (path : String)
  | goalsNotCollection (path : String)
deriving DecidableEq, Repr

def ConfigurationFault.message : ConfigurationFault → String
  | .noFunnelSteps goal => "Goal '" ++ goal ++ "' has no funnel steps"
  | .stepsNotList goal => "Goal '" ++ goal ++ "' funnel steps must be a list"
  | .goalsFileMissing path => "Goals file not found: " ++ path
  | .goalsFileUnreadable path => "Goals file " ++ path ++ " is not valid YAML"
  | .goalsNotCollection path => "'goals' in " ++ path ++ " must be a mapping or a list"

def Pattern.Fault.message : Pattern.Fault → String
  | .malformed => "malformed pattern"
  | .repetitionTooLarge => "the repetition number is too large"
  | .incompatibleModes => "ASCII and UNICODE flags are incompatible"
  | .codeTooLarge => "Python int too large to convert to C int"
  | .countTooLong digits => NumberFault.message (.tooManyDigits digits)

inductive Fault where
  | definition (fault : DefinitionFault)
  | configuration (fault : ConfigurationFault)
  | goalNotFound (id : Int)
  | number (fault : NumberFault)
  | calendar (fault : CalendarFault)
  | pattern (fault : Pattern.Fault)
  | kindMismatch
  | missingAttribute
  | missingItem
  | missingEntry
  | notPair (position parts : Nat)
  | noCharacter (code : Nat)
  | notStorable
  | notBindable
  | beyondColumn
  | rowRejected
deriving DecidableEq

/-- What is wrong with a part of a definition is shown with the values at fault, which have to be
written out for that. -/
def PartFault.shown (fault : PartFault) : Fault :=
  if fault.issues.all (·.isWritable) then .definition (.part fault) else .number .tooLongToWrite

namespace Fault

def message : Fault → String
  | .definition fault => fault.message
  | .configuration fault => fault.message
  | .goalNotFound id => "Goal " ++ intText id ++ " not found"
  | .number fault => fault.message
  | .calendar fault => fault.message
  | .pattern fault => fault.message
  | .kindMismatch => "kind mismatch"
  | .missingAttribute => "missing attribute"
  | .missingItem => "missing item"
  | .missingEntry => "missing entry"
  | .notPair position parts =>
      "dictionary update sequence element #" ++ decimalText position ++ " has length "
        ++ decimalText parts ++ "; 2 is required"
  | .noCharacter code =>
      if code < 0x80000000 then "chr() arg not in range(0x110000)"
      else "Python int too large to convert to C int"
  | .notStorable => "value cannot be stored"
  | .notBindable => "value cannot be bound"
  | .beyondColumn => "Python int too large to convert to SQLite INTEGER"
  | .rowRejected => "row rejected"

end Fault

end ConversionTracking
