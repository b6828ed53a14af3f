import ConversionTracking.Proofs.Matching.Evaluate

/-!
The ids of new conversions. They follow the highest id in use as long as such ids are left; after that
the database draws them, and nothing but the ids depends on its draws.
-/

namespace ConversionTracking

def Conversion.withoutId (conversion : Conversion) : Conversion := { conversion with id := 0 }

namespace Database

/-- Beyond the ids of the conversions some number of ids is left. -/
def LeavesIds (database : Database) (count : Nat) : Prop :=
  ∀ id ∈ 0 :: database.conversions.map (·.id), id + count ≤ lastId

section

variable {database : Database} {count : Nat}

theorem LeavesIds.leavesId (leaves : database.LeavesIds (count + 1)) :
    LeavesId (database.conversions.map (·.id)) := by
  intro id member
  have bound := leaves id (List.mem_cons_of_mem 0 member)
  omega

theorem LeavesIds.withRow (leaves : database.LeavesIds (count + 1)) {row : Conversion}
    (isNext : row.id = database.nextId (database.conversions.map (·.id))) :
    (database.withConversions [row]).LeavesIds count := by
  obtain ⟨last, inUse, _, next⟩ := database.nextId_of_leaves leaves.leavesId
  intro id member
  rw [withConversions_conversions, List.map_append, ← List.cons_append] at member
  rcases List.mem_append.mp member with old | new
  · have bound := leaves id old
    omega
  · have isId : id = row.id := List.mem_singleton.mp new
    have bound := leaves last inUse
    omega

end

end Database

namespace Occurrence

section

variable {occurrence : Occurrence} {scope : Scope} {goal : Goal} {database : Database}

end

end Occurrence

namespace Evaluation

end Evaluation

namespace Matcher

section

variable (settings : Matcher) (trigger : Trigger) (session visitor : Value) (database : Database)

theorem conversions_of_result {evaluation : Evaluation}
    (returned : (settings.evaluate trigger session visitor).result database = .ok evaluation) :
    evaluation.conversions =
      (settings.newRows trigger session visitor database).map Prod.snd := by
  rw [result_evaluate] at returned
  unfold newRows Occurrence.of? at *
  cases isRead : Occurrence.read trigger session visitor with
  | error fault =>
      rw [isRead] at returned
      cases returned
  | ok occurrence? =>
      rw [isRead] at returned
      cases occurrence? with
      | none =>
          cases returned
          rfl
      | some occurrence =>
          cases readable : settings.scope.check with
          | error fault =>
              rw [readable] at returned
              cases returned
          | ok _ =>
              rw [readable] at returned
              cases returned
              rfl

end

end Matcher

end ConversionTracking
