import ConversionTracking.Fault

/-!
Results of operations that may fail and that may leave notices on the way. Notices given before a
failure are kept.
-/

namespace ConversionTracking

inductive Notice where
  | operatorFailed
  | conditionPatternInvalid
  | stepTypeUnknown
  | stepPatternInvalid
  | triggerUnsupported
  | goalMalformed
  | goalFailed
  | rowRefused
  | listenerFailed
  | entryInvalid
  | goalsFileNotLoaded
deriving DecidableEq, Repr

structure Outcome (α : Type) where
  result : Except Fault α
  notices : List Notice

namespace Outcome

protected def pure {α : Type} (value : α) : Outcome α := ⟨.ok value, []⟩

protected def bind {α β : Type} (first : Outcome α) (next : α → Outcome β) : Outcome β :=
  match first.result with
  | .error fault => ⟨.error fault, first.notices⟩
  | .ok value =>
      let second := next value
      ⟨second.result, first.notices ++ second.notices⟩

instance : Monad Outcome where
  pure := Outcome.pure
  bind := Outcome.bind

def fail {α : Type} (fault : Fault) : Outcome α := ⟨.error fault, []⟩

def note (notice : Notice) : Outcome Unit := ⟨.ok (), [notice]⟩

def ofExcept {α : Type} (result : Except Fault α) : Outcome α := ⟨result, []⟩

instance : MonadLift (Except Fault) Outcome where
  monadLift := ofExcept

def recover {α : Type} (attempt : Outcome α) (handle : Fault → Outcome α) : Outcome α :=
  match attempt.result with
  | .ok value => ⟨.ok value, attempt.notices⟩
  | .error fault =>
      let second := handle fault
      ⟨second.result, attempt.notices ++ second.notices⟩

end Outcome

end ConversionTracking
