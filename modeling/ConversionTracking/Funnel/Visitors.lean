import ConversionTracking.Definition.Step
import ConversionTracking.Matching.Check
import ConversionTracking.Store.Database
import ConversionTracking.Text.Like

/-!
The visitors who did what a funnel step asks for, within a range and a scope, from the facts in the
database.
-/

namespace ConversionTracking

def sortedTexts (texts : List String) : List String := (texts.mergeSort (· ≤ ·)).eraseDups

def admitsText (expected actual : Option String) : Bool := expected.isNone || expected == actual

def filterFacts {Fact : Type} (test : Fact → Outcome Bool) : List Fact → Outcome (List Fact)
  | [] => pure []
  | fact :: rest => do
      let passes ← test fact
      let others ← filterFacts test rest
      return if passes then fact :: others else others

namespace EventFact

def isVisible (fact : EventFact) (scope : Scope) (range : DateRange) : Bool :=
  scope.sees fact.siteId fact.tenantId && range.selects fact.createdAt

def isNamedBy (fact : EventFact) (step : EventStep) : Bool :=
  admitsText step.matchName (some fact.name) && admitsText step.category fact.category

end EventFact

namespace PageViewFact

def isVisible (fact : PageViewFact) (scope : Scope) (range : DateRange) : Bool :=
  scope.sees fact.siteId fact.tenantId && range.selects fact.createdAt

def isAcceptedBy (fact : PageViewFact) (glob : Option String) (regex : Option Pattern) :
    Bool :=
  glob.all (fun pattern => globMatches pattern (some fact.path))
    && regex.all fun pattern => (pattern.search fact.path).isSome

end PageViewFact

def PageViewStep.compiled (step : PageViewStep) : Except Pattern.Fault (Option Pattern) :=
  match step.regex with
  | none => .ok none
  | some source => (Pattern.compile source).map some

namespace Database

/-- The events that the database selects for a step: those of known visitors within the scope and the
range, of the name and the category that the step gives. -/
def selectedEvents (database : Database) (scope : Scope) (step : EventStep) (range : DateRange) :
    Except Fault (List EventFact) := do
  scope.check
  return database.events.filter fun fact =>
    fact.isVisible scope range && fact.visitorId.isSome && fact.isNamedBy step

def selectedEventVisitors (database : Database) (scope : Scope) (step : EventStep)
    (range : DateRange) : Outcome (List String) := do
  let selected ← Outcome.ofExcept (database.selectedEvents scope step range)
  return sortedTexts (selected.filterMap (·.visitorId))

/-- The visitors of the selected events whose properties, one event after another, meet the step's
conditions. -/
def testedEventVisitors (database : Database) (scope : Scope) (step : EventStep)
    (range : DateRange) : Outcome (List String) := do
  let selected ← Outcome.ofExcept (database.selectedEvents scope step range)
  let matching ← filterFacts
    (fun fact => propertiesMeet (givenProperties fact.properties) step.properties) selected
  return sortedTexts (matching.filterMap (·.visitorId))

def eventVisitors (database : Database) (scope : Scope) (step : EventStep) (range : DateRange) :
    Outcome (List String) :=
  if step.properties.isEmpty then database.selectedEventVisitors scope step range
  else database.testedEventVisitors scope step range

/-- The page views that the database selects for a step. A filter that is too long is refused as soon
as there is a page view to test it on. -/
def selectedPageViews (database : Database) (scope : Scope) (step : PageViewStep)
    (range : DateRange) : Except Fault (List PageViewFact) := do
  scope.check
  let tested := database.pageViews.filter fun fact =>
    fact.isVisible scope range && fact.visitorId.isSome
      && admitsText step.exactPath (some fact.path)
  match step.contains with
  | none => return tested
  | some needle =>
      let filter := Like.containing needle
      if Like.isTooLong filter && !tested.isEmpty then .error .notBindable
      else return tested.filter fun fact => likeMatches filter fact.path.toList

/-- The visitors of the selected page views that the patterns of the step accept. With a malformed
pattern there are none. -/
def testedPageViewVisitors (database : Database) (scope : Scope) (step : PageViewStep)
    (range : DateRange) : Outcome (List String) :=
  match step.compiled with
  | .error .malformed => do
      Outcome.note .stepPatternInvalid
      return []
  | .error fault => .fail (.pattern fault)
  | .ok regex => do
      let selected ← Outcome.ofExcept (database.selectedPageViews scope step range)
      let matching := selected.filter (·.isAcceptedBy step.pattern regex)
      return sortedTexts (matching.filterMap (·.visitorId))

def pageViewVisitors (database : Database) (scope : Scope) (step : PageViewStep)
    (range : DateRange) : Outcome (List String) :=
  if step.pattern.isNone && step.regex.isNone then do
    let selected ← Outcome.ofExcept (database.selectedPageViews scope step range)
    return sortedTexts (selected.filterMap (·.visitorId))
  else database.testedPageViewVisitors scope step range

def distinctVisitors (database : Database) (scope : Scope) (step : FunnelStep)
    (range : DateRange) : Outcome (List String) :=
  match step with
  | .event step => database.eventVisitors scope step range
  | .pageView step => database.pageViewVisitors scope step range

end Database

end ConversionTracking
