import ConversionTracking.Matching.Identity
import ConversionTracking.Matching.Worth
import ConversionTracking.Notification
import ConversionTracking.Store.Conversions
import ConversionTracking.Store.Goals

/-!
Evaluating a trigger against the active goals. For each goal the trigger satisfies, a look at the
conversions for one with the same key comes first, and the insertion of a new one second; others may
insert between the two. What fails for one goal changes nothing and stops no other goal.
-/

namespace ConversionTracking

/-- The types of the goals that a kind of trigger can satisfy, in the order of evaluation. -/
def TriggerKind.goalTypes : TriggerKind → List GoalType
  | .event => [.event]
  | .pageView => [.pageView]
  | .session => [.duration, .pagesPerSession]

/-- A trigger of a known kind, with the session and the visitor that it is said to belong to and the
identities that they give its conversions. -/
structure Occurrence where
  trigger : Trigger
  kind : TriggerKind
  session : Value
  visitor : Value
  sessionId : Value
  visitorId : Value
  isKind : trigger.kind? = some kind
  ofSession : trigger.sessionIdentity session = .ok sessionId
  ofVisitor : trigger.visitorIdentity visitor = .ok visitorId

/-- Whether conversions are looked up before a new one is inserted. -/
inductive Precheck where
  | made
  | skipped
deriving DecidableEq, Repr

namespace Goal

def worthRule (goal : Goal) : WorthRule where
  valueType := .text goal.valueType
  fixedValue := (goal.fixedValue.map Value.float).getD .null
  dynamicPath := (goal.dynamicPath.map Value.text).getD .null

def isSatisfiedBy (goal : Goal) (trigger : Trigger) : Outcome Bool := do
  let conditions ← Outcome.ofExcept <|
    (Conditions.read goal.goalType goal.conditions).mapError PartFault.shown
  conditions.satisfiedBy trigger

end Goal

namespace Occurrence

/-- The occurrence of a trigger, if it is of a known kind. The identities are read before any goal
is. -/
def read (trigger : Trigger) (session visitor : Value) : Except Fault (Option Occurrence) :=
  match isKind : trigger.kind? with
  | none => .ok none
  | some kind =>
      match ofSession : trigger.sessionIdentity session with
      | .error fault => .error (.number fault)
      | .ok sessionId =>
          match ofVisitor : trigger.visitorIdentity visitor with
          | .error fault => .error (.number fault)
          | .ok visitorId =>
              .ok (some
                ⟨trigger, kind, session, visitor, sessionId, visitorId, isKind, ofSession, ofVisitor⟩)

def key (occurrence : Occurrence) (goal : Goal) : Except Fault (Option String) :=
  (conversionKey goal.allowMultiple occurrence.sessionId occurrence.visitorId).mapError .number

def factId (occurrence : Occurrence) (kind : TriggerKind) : Except Fault (Option String) :=
  if occurrence.kind = kind then
    ((occurrence.trigger.field? .id).getD .null).identity?.mapError .number
  else .ok none

/-- The conversion of a goal. The scope's site and tenant, when it has them, stand for the goal's. -/
def conversionFields (occurrence : Occurrence) (scope : Scope) (goal : Goal) :
    Except Fault ConversionFields := do
  let key ← occurrence.key goal
  let eventId ← occurrence.factId .event
  let pageViewId ← occurrence.factId .pageView
  let value ← goal.worthRule.resolve occurrence.trigger
  let metadata ← occurrence.trigger.metadata
  return {
    goalId := .int goal.id
    siteId := ((scope.siteId <|> goal.siteId).map Value.int).getD .null
    tenantId := ((scope.tenantId <|> goal.tenantId).map Value.text).getD .null
    sessionId := occurrence.sessionId
    visitorId := occurrence.visitorId
    eventId := (eventId.map Value.text).getD .null
    pageViewId := (pageViewId.map Value.text).getD .null
    value := (value.map Value.float).getD .null
    metadata := .map metadata
    dedupeKey := (key.map Value.text).getD .null }

def isDue (occurrence : Occurrence) (precheck : Precheck) (goal : Goal) : Work Bool := do
  if ← Work.ofOutcome (goal.isSatisfiedBy occurrence.trigger) then
    let key ← Work.ofExcept (occurrence.key goal)
    match precheck with
    | .made => return !(← Work.read (·.conversionExists goal.id key))
    | .skipped => return true
  else return false

def record (occurrence : Occurrence) (scope : Scope) (goal : Goal) : Work (Option Conversion) := do
  let fields ← Work.ofExcept (occurrence.conversionFields scope goal)
  Conversions.insert fields

def convert (occurrence : Occurrence) (precheck : Precheck) (scope : Scope) (goal : Goal) :
    Work (Option Conversion) :=
  let attempt : Work (Option Conversion) := do
    if ← occurrence.isDue precheck goal then occurrence.record scope goal else return none
  attempt.recover fun fault => do
    match fault with
    | .definition _ => Work.note .goalMalformed
    | _ => Work.note .goalFailed
    return none

def notification (occurrence : Occurrence) (goal : Goal) (conversion : Conversion) :
    Notification where
  goalName := goal.name
  goalType := goal.goalType
  value := conversion.value
  metadata := conversion.metadata
  session := occurrence.trigger.sessionReference occurrence.session
  visitor := occurrence.visitor

end Occurrence

structure Evaluation where
  conversions : List Conversion
  deliveries : List Delivery

namespace Evaluation

def empty : Evaluation := ⟨[], []⟩

def append (first second : Evaluation) : Evaluation :=
  ⟨first.conversions ++ second.conversions, first.deliveries ++ second.deliveries⟩

end Evaluation

/-- How triggers are evaluated: within a scope, with or without the first look, and heard by
listeners. -/
structure Matcher where
  scope : Scope
  precheck : Precheck
  listeners : List Listener

namespace Matcher

def evaluateGoal (settings : Matcher) (occurrence : Occurrence) (goal : Goal) : Work Evaluation := do
  match ← occurrence.convert settings.precheck settings.scope goal with
  | none => return .empty
  | some conversion =>
      let deliveries ← Work.ofOutcome
        (Listener.deliver (occurrence.notification goal conversion) settings.listeners)
      return ⟨[conversion], deliveries⟩

def evaluateGoals (settings : Matcher) (occurrence : Occurrence) : List Goal → Work Evaluation
  | [] => return .empty
  | goal :: rest => do
      let first ← settings.evaluateGoal occurrence goal
      return first.append (← settings.evaluateGoals occurrence rest)

def evaluateTypes (settings : Matcher) (occurrence : Occurrence) : List GoalType → Work Evaluation
  | [] => return .empty
  | goalType :: rest => do
      let goals ← Work.read (·.activeGoalsOfType settings.scope goalType.name)
      let first ← settings.evaluateGoals occurrence goals
      return first.append (← settings.evaluateTypes occurrence rest)

def evaluate (settings : Matcher) (trigger : Trigger) (session visitor : Value) :
    Work Evaluation := do
  match ← Work.ofExcept (Occurrence.read trigger session visitor) with
  | none => do
      Work.note .triggerUnsupported
      return .empty
  | some occurrence => settings.evaluateTypes occurrence occurrence.kind.goalTypes

end Matcher

end ConversionTracking
