import ConversionTracking.Outcome
import ConversionTracking.Trigger.Basic

/-!
Notifications of new conversions. Every listener hears every notification, in the order of
subscription; one that fails is reported and keeps no other from hearing it.
-/

namespace ConversionTracking

structure Notification where
  goalName : String
  goalType : String
  value : Option Binary64
  metadata : Value
  session : SessionReference
  visitor : Value

structure Listener where
  identity : Nat
  name : String
  fails : Bool
deriving DecidableEq, Repr

structure Delivery where
  listener : Listener
  notification : Notification

namespace Listener

def subscribe (listeners : List Listener) (listener : Listener) : List Listener :=
  listeners ++ [listener]

def unsubscribe (listeners : List Listener) (identity : Nat) : List Listener :=
  listeners.eraseP (·.identity == identity)

def deliver (notification : Notification) : List Listener → Outcome (List Delivery)
  | [] => pure []
  | listener :: rest => do
      if listener.fails then Outcome.note .listenerFailed
      return ⟨listener, notification⟩ :: (← deliver notification rest)

end Listener

end ConversionTracking
