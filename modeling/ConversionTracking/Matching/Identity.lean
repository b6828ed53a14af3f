import ConversionTracking.Trigger.Basic

/-!
Whom a trigger belongs to, and the key under which a goal converts once for a session or a visitor.
-/

namespace ConversionTracking

def givenIdentity (given : Option String) (own : Value) : Value :=
  match given with
  | some identity => if identity.isEmpty then own else .text identity
  | none => own

namespace Trigger

/-- The session of a trigger. A session trigger is its own session when no other is given. -/
def sessionReference (trigger : Trigger) (session : Value) : SessionReference :=
  match trigger with
  | .session source => if session.isNull then .trigger source else .value session
  | _ => .value session

def sessionIdentity (trigger : Trigger) (session : Value) : Except NumberFault Value :=
  (trigger.sessionReference session).identity?.map fun given =>
    givenIdentity given ((trigger.field? .sessionId).getD .null)

def visitorIdentity (trigger : Trigger) (visitor : Value) : Except NumberFault Value :=
  visitor.identity?.map fun given =>
    givenIdentity given ((trigger.field? .visitorId).getD .null)

end Trigger

/-- The key that no two conversions of a goal share: the session's, else the visitor's. A goal that
allows duplicates has none, and so has a trigger of nobody. -/
def conversionKey (allowMultiple : Bool) (session visitor : Value) :
    Except NumberFault (Option String) :=
  if allowMultiple then .ok none
  else if !session.isNull then session.written.map fun text => some ("session:" ++ text)
  else if !visitor.isNull then visitor.written.map fun text => some ("visitor:" ++ text)
  else .ok none

end ConversionTracking
