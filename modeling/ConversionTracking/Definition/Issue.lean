import ConversionTracking.Number.Digits
import ConversionTracking.Text.Quoted

/-!
What validation finds wrong with a field, and what is wrong with conditions, funnel steps and goals.
-/

namespace ConversionTracking

inductive Place where
  | field (name : String)
  | index (position : Int)
deriving DecidableEq, Repr

inductive Problem where
  | notText
  | textUnreadable
  | textTooShort
  | textTooLong
  | notWhole
  | wholeUnreadable
  | wholeTooLong
  | fractionalWhole
  | notFinite
  | notNumber
  | numberUnreadable
  | notTruth
  | truthUnreadable
  | notMap
  | notList
  | notChoice (expected : String)
  | missing
  | unexpected
  | belowMinimum (minimum : Nat)
  | aboveMaximum (maximum : Nat)
deriving DecidableEq, Repr

namespace Problem

def code : Problem → String
  | .notText => "string_type"
  | .textUnreadable => "string_unicode"
  | .textTooShort => "string_too_short"
  | .textTooLong => "string_too_long"
  | .notWhole => "int_type"
  | .wholeUnreadable => "int_parsing"
  | .wholeTooLong => "int_parsing_size"
  | .fractionalWhole => "int_from_float"
  | .notFinite => "finite_number"
  | .notNumber => "float_type"
  | .numberUnreadable => "float_parsing"
  | .notTruth => "bool_type"
  | .truthUnreadable => "bool_parsing"
  | .notMap => "dict_type"
  | .notList => "list_type"
  | .notChoice _ => "literal_error"
  | .missing => "missing"
  | .unexpected => "extra_forbidden"
  | .belowMinimum _ => "greater_than_equal"
  | .aboveMaximum _ => "less_than_equal"

def message : Problem → String
  | .notText => "Input should be a valid string"
  | .textUnreadable =>
      "Input should be a valid string, unable to parse raw data as a unicode string"
  | .textTooShort => "String should have at least 1 character"
  | .textTooLong => "String should have at most 255 characters"
  | .notWhole => "Input should be a valid integer"
  | .wholeUnreadable => "Input should be a valid integer, unable to parse string as an integer"
  | .wholeTooLong => "Unable to parse input string as an integer, exceeded maximum size"
  | .fractionalWhole => "Input should be a valid integer, got a number with a fractional part"
  | .notFinite => "Input should be a finite number"
  | .notNumber => "Input should be a valid number"
  | .numberUnreadable => "Input should be a valid number, unable to parse string as a number"
  | .notTruth => "Input should be a valid boolean"
  | .truthUnreadable => "Input should be a valid boolean, unable to interpret input"
  | .notMap => "Input should be a valid dictionary"
  | .notList => "Input should be a valid list"
  | .notChoice expected => "Input should be " ++ quotedText expected
  | .missing => "Field required"
  | .unexpected => "Extra inputs are not permitted"
  | .belowMinimum minimum => "Input should be greater than or equal to " ++ decimalText minimum
  | .aboveMaximum maximum => "Input should be less than or equal to " ++ decimalText maximum

end Problem

structure Issue where
  place : List Place
  problem : Problem
  isWritable : Bool
deriving DecidableEq, Repr

/-- What is wrong with the conditions of a goal or with a funnel step. -/
inductive PartFault where
  | unknownGoalType (goalType : String)
  | conditionsNotMap (goalType kind : String)
  | invalidConditions (goalType : String) (issues : List Issue)
  | stepNotMap (kind : String)
  | invalidStep (issues : List Issue)
deriving DecidableEq, Repr

namespace PartFault

def message : PartFault → String
  | .unknownGoalType goalType => "Unknown goal type '" ++ goalType ++ "'"
  | .conditionsNotMap goalType kind =>
      "Conditions for a '" ++ goalType ++ "' goal must be a mapping, got " ++ kind
  | .invalidConditions goalType _ => "Invalid '" ++ goalType ++ "' conditions"
  | .stepNotMap kind => "Funnel step must be a mapping, got " ++ kind
  | .invalidStep _ => "Invalid funnel step"

def issues : PartFault → List Issue
  | .invalidConditions _ issues | .invalidStep issues => issues
  | _ => []

end PartFault

inductive Inconsistency where
  | unknownType
  | unknownValueType
  | fixedValueMissing
  | dynamicPathMissing
  | invalidPart (fault : PartFault)
deriving DecidableEq, Repr

def goalTypes : List String := ["event", "pageview", "duration", "pages_per_session"]

def valueTypes : List String := ["none", "fixed", "dynamic"]

private def quotedList (names : List String) : String :=
  "[" ++ ", ".intercalate (names.map quotedText) ++ "]"

def Inconsistency.message : Inconsistency → String
  | .unknownType => "type must be one of " ++ quotedList goalTypes
  | .unknownValueType => "value_type must be one of " ++ quotedList valueTypes
  | .fixedValueMissing => "fixed_value is required when value_type is 'fixed'"
  | .dynamicPathMissing => "dynamic_value_path is required when value_type is 'dynamic'"
  | .invalidPart fault => fault.message

inductive GoalIssue where
  | field (issue : Issue)
  | inconsistent (cause : Inconsistency)
deriving DecidableEq, Repr

inductive DefinitionFault where
  | part (fault : PartFault)
  | invalidPathPattern
  | invalidGoal (issues : List GoalIssue)
deriving DecidableEq, Repr

def DefinitionFault.message : DefinitionFault → String
  | .part fault => fault.message
  | .invalidPathPattern => "Invalid path_regex"
  | .invalidGoal _ => "Invalid goal definition"

end ConversionTracking
