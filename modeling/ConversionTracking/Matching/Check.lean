import ConversionTracking.Condition.Operator
import ConversionTracking.Condition.Path
import ConversionTracking.Definition.Conditions
import ConversionTracking.Text.Glob
import ConversionTracking.Trigger.Basic

/-!
Whether a trigger satisfies the conditions of a goal.
-/

namespace ConversionTracking

def Trigger.require (trigger : Trigger) (field : TriggerField) : Except Fault Value :=
  match trigger.field? field with
  | some value => .ok value
  | none => .error .missingAttribute

def givenProperties (properties : Value) : Value :=
  if properties.isGiven then properties else .map []

/-- Every property at its path meets its condition; the first that does not ends the test. -/
def propertiesMeet (properties : Value) : Fields → Outcome Bool
  | [] => pure true
  | (path, condition) :: rest => do
      let observed ← Outcome.ofExcept ((properties.atPath path).mapError .number)
      if ← meets observed condition then propertiesMeet properties rest else return false

def isText (value : Value) (expected : Option String) : Bool :=
  match expected with
  | some expected => value.equals (.text expected)
  | none => true

def reaches (value : Value) (threshold : Binary64) : Except Fault Bool := do
  match ← value.toNumber.mapError .number with
  | some number => return threshold.lessOrEqual number
  | none => return false

namespace EventConditions

def fieldIs (trigger : Trigger) (field : TriggerField) (expected : Option String) :
    Except Fault Bool :=
  match expected with
  | none => .ok true
  | some _ => return isText (← trigger.require field) expected

/-- The value of the trigger is not below the least one. A value that is not a number equals no
threshold and is not below one. -/
def valueIsEnough (trigger : Trigger) (least : Option Binary64) : Except Fault Bool :=
  match least with
  | none => .ok true
  | some least => do
      match ← (← trigger.require .value).toNumber.mapError .number with
      | some number => return !number.less least
      | none => return false

def satisfiedBy (conditions : EventConditions) (trigger : Trigger) : Outcome Bool := do
  if !(← fieldIs trigger .name conditions.name) then return false
  if !(← fieldIs trigger .category conditions.category) then return false
  if !(← valueIsEnough trigger conditions.minValue) then return false
  let properties ← Outcome.ofExcept (trigger.require .properties)
  propertiesMeet (givenProperties properties) conditions.properties

end EventConditions

def globAccepts (pattern : String) (path : Value) : Except Fault Bool :=
  match path with
  | .null => .ok false
  | .text path => .ok (globMatches pattern (some path))
  | _ => .error .kindMismatch

def searchedPath (path : Value) : Except Fault String :=
  if path.isGiven then
    match path with
    | .text path => .ok path
    | _ => .error .kindMismatch
  else .ok ""

def regexAccepts (regex : String) (path : Value) : Except Fault Bool :=
  match Pattern.compile regex with
  | .error .malformed => .error (.definition .invalidPathPattern)
  | .error fault => .error (.pattern fault)
  | .ok pattern => return (pattern.search (← searchedPath path)).isSome

def holdsText (needle : String) (path : Value) : Except Fault Bool :=
  if path.isGiven then
    match path with
    | .text path => .ok (occursIn needle.toList path.toList)
    | .list items | .tuple items | .set items =>
        .ok (items.any fun item => item.equals (.text needle))
    | .map entries => .ok (Entries.contains entries (.text needle))
    | _ => .error .kindMismatch
  else .ok needle.isEmpty

namespace PathRules

def satisfiedBy (rules : PathRules) (trigger : Trigger) : Except Fault Bool := do
  let path ← trigger.require .path
  match rules.exact, rules.pattern, rules.regex, rules.contains with
  | some exact, _, _, _ => return path.equals (.text exact)
  | none, some pattern, _, _ => globAccepts pattern path
  | none, none, some regex, _ => regexAccepts regex path
  | none, none, none, some needle => holdsText needle path
  | none, none, none, none => return false

end PathRules

namespace Conditions

def satisfiedBy (conditions : Conditions) (trigger : Trigger) : Outcome Bool :=
  match conditions with
  | .event conditions => conditions.satisfiedBy trigger
  | .pageView rules => .ofExcept (rules.satisfiedBy trigger)
  | .duration minSeconds => .ofExcept do reaches (← trigger.require .duration) minSeconds
  | .pagesPerSession minPages => .ofExcept do
      match ← (← trigger.require .pageCount).toNumber.mapError .number with
      | some pages =>
          let order := pages.compareInt? minPages
          return order == some .gt || order == some .eq
      | none => return false

end Conditions

end ConversionTracking
