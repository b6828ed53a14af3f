import ConversionTracking.Definition.Field
import ConversionTracking.Outcome

/-!
The conditions of a goal for each type of goal.
-/

namespace ConversionTracking

inductive GoalType where
  | event
  | pageView
  | duration
  | pagesPerSession
deriving DecidableEq, Repr

namespace GoalType

def name : GoalType → String
  | .event => "event"
  | .pageView => "pageview"
  | .duration => "duration"
  | .pagesPerSession => "pages_per_session"

def ofName? : String → Option GoalType
  | "event" => some .event
  | "pageview" => some .pageView
  | "duration" => some .duration
  | "pages_per_session" => some .pagesPerSession
  | _ => none

end GoalType

structure EventConditions where
  name : Option String
  category : Option String
  minValue : Option Binary64
  properties : Fields

structure PathRules where
  exact : Option String
  pattern : Option String
  regex : Option String
  contains : Option String
deriving DecidableEq, Repr

inductive Conditions where
  | event (conditions : EventConditions)
  | pageView (rules : PathRules)
  | duration (minSeconds : Binary64)
  | pagesPerSession (minPages : Int)

namespace Conditions

def eventOf (entries : Entries) : Checked EventConditions :=
  EventConditions.mk
    <$> entries.optional "event_name" FieldKind.text
    <*> entries.optional "event_category" FieldKind.text
    <*> entries.optional "min_value" FieldKind.number
    <*> entries.withDefault "property_matches" [] FieldKind.fields

def pathRulesOf (entries : Entries) : Checked PathRules :=
  PathRules.mk
    <$> entries.optional "path_exact" FieldKind.text
    <*> entries.optional "path_pattern" FieldKind.text
    <*> entries.optional "path_regex" FieldKind.text
    <*> entries.optional "path_contains" FieldKind.text

def ofEntries (goalType : GoalType) (entries : Entries) : Checked Conditions :=
  match goalType with
  | .event => Conditions.event <$> eventOf entries
  | .pageView => Conditions.pageView <$> pathRulesOf entries
  | .duration => Conditions.duration <$> entries.required "min_seconds" FieldKind.number
  | .pagesPerSession => Conditions.pagesPerSession <$> entries.required "min_pages" FieldKind.whole

def read (typeName : String) (raw : Value) : Except PartFault Conditions :=
  match GoalType.ofName? typeName with
  | none => .error (.unknownGoalType typeName)
  | some goalType =>
      let entries? :=
        match raw with
        | .null => some []
        | .map entries => some entries
        | _ => none
      match entries? with
      | none => .error (.conditionsNotMap typeName raw.kindName)
      | some entries =>
          match ofEntries goalType entries with
          | .valid conditions => .ok conditions
          | .invalid issues => .error (.invalidConditions typeName issues)

def readAny (type raw : Value) : Except Fault Conditions :=
  match type with
  | .text typeName => (read typeName raw).mapError PartFault.shown
  | _ =>
      if !type.isKey then .error .kindMismatch
      else if !type.isWritable then .error (.number .tooLongToWrite)
      else .error (PartFault.unknownGoalType type.plainText).shown

end Conditions

end ConversionTracking
