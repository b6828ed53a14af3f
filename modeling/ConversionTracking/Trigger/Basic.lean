import ConversionTracking.Value.Equality
import ConversionTracking.Value.Text

/-!
Triggers: what a visitor does that may satisfy goals. An event, a page view and a session each carry
values of any kind, as they were ingested.
-/

namespace ConversionTracking

structure EventTrigger where
  name : Value
  category : Value
  properties : Value
  value : Value
  sessionId : Value
  visitorId : Value
  path : Value
  id : Value

structure PageViewTrigger where
  path : Value
  title : Value
  sessionId : Value
  visitorId : Value
  id : Value

structure SessionTrigger where
  id : Value
  duration : Value
  pageCount : Value
  visitorId : Value
  entryPage : Value
  exitPage : Value

inductive Trigger where
  | event (event : EventTrigger)
  | pageView (pageView : PageViewTrigger)
  | session (session : SessionTrigger)
  | other (value : Value)

inductive TriggerKind where
  | event
  | pageView
  | session
deriving DecidableEq, Repr

def TriggerKind.name : TriggerKind → String
  | .event => "event"
  | .pageView => "pageview"
  | .session => "session"

inductive TriggerField where
  | name
  | category
  | properties
  | value
  | path
  | title
  | sessionId
  | visitorId
  | id
  | duration
  | pageCount
  | entryPage
  | exitPage
deriving DecidableEq, Repr

namespace Trigger

def kind? : Trigger → Option TriggerKind
  | .event _ => some .event
  | .pageView _ => some .pageView
  | .session _ => some .session
  | .other _ => none

def field? : Trigger → TriggerField → Option Value
  | .event source, .name => some source.name
  | .event source, .category => some source.category
  | .event source, .properties => some source.properties
  | .event source, .value => some source.value
  | .event source, .path => some source.path
  | .event source, .sessionId => some source.sessionId
  | .event source, .visitorId => some source.visitorId
  | .event source, .id => some source.id
  | .pageView source, .path => some source.path
  | .pageView source, .title => some source.title
  | .pageView source, .sessionId => some source.sessionId
  | .pageView source, .visitorId => some source.visitorId
  | .pageView source, .id => some source.id
  | .session source, .id => some source.id
  | .session source, .duration => some source.duration
  | .session source, .pageCount => some source.pageCount
  | .session source, .visitorId => some source.visitorId
  | .session source, .entryPage => some source.entryPage
  | .session source, .exitPage => some source.exitPage
  | .other (.reference id), .id => some id
  | _, _ => none

end Trigger

namespace Value

def written (value : Value) : Except NumberFault String :=
  if value.isWritable then .ok value.plainText else .error .tooLongToWrite

/-- The identity that a reference to a session or a visitor gives: a text or whole number itself, or
the id of the thing referred to. -/
def identity? : Value → Except NumberFault (Option String)
  | .text value => .ok (some value)
  | .int value => some <$> (Value.int value).written
  | .bool value => some <$> (Value.bool value).written
  | .reference id => if id.isNull then .ok none else some <$> id.written
  | _ => .ok none

end Value

/-- A session that a trigger belongs to: a value that refers to it, or the trigger itself. -/
inductive SessionReference where
  | value (reference : Value)
  | trigger (session : SessionTrigger)

def SessionReference.identity? : SessionReference → Except NumberFault (Option String)
  | .value reference => reference.identity?
  | .trigger session => (Value.reference session.id).identity?

end ConversionTracking
