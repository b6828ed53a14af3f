import ConversionTracking.Proofs.Matching.Frame
import Mathlib.Data.List.Induction

/-!
Who hears of a new conversion. Subscriptions stand in the order in which they were made, and an
unsubscription ends the earliest that its listener has left.
-/

namespace ConversionTracking

inductive SubscriptionCall where
  | subscribe (listener : Listener)
  | unsubscribe (identity : Nat)

namespace SubscriptionCall

def after (listeners : List Listener) : SubscriptionCall → List Listener
  | .subscribe listener => Listener.subscribe listeners listener
  | .unsubscribe identity => Listener.unsubscribe listeners identity

def run (calls : List SubscriptionCall) : List Listener := calls.foldl after []

def subscribed? : SubscriptionCall → Option Listener
  | .subscribe listener => some listener
  | .unsubscribe _ => none

def standingAfter (identity standing : Nat) : SubscriptionCall → Nat
  | .subscribe listener => if listener.identity = identity then standing + 1 else standing
  | .unsubscribe other => if other = identity then standing - 1 else standing

def standingCount (calls : List SubscriptionCall) (identity : Nat) : Nat :=
  calls.foldl (standingAfter identity) 0

def latest (counts : Nat → Nat) : List Listener → List Listener
  | [] => []
  | listener :: later =>
      if later.countP (·.identity == listener.identity) < counts listener.identity then
        listener :: latest counts later
      else latest counts later

def standing (calls : List SubscriptionCall) : List Listener :=
  latest (standingCount calls) (calls.filterMap subscribed?)

end SubscriptionCall

namespace Matcher

section

variable {settings : Matcher} {trigger : Trigger} {session visitor : Value} {database : Database}

end

end Matcher

end ConversionTracking
