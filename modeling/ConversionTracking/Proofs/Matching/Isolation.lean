import ConversionTracking.Proofs.Matching.Draws
import ConversionTracking.Proofs.Matching.Order
import ConversionTracking.Proofs.Store.Sorted
import Mathlib.Data.List.Nodup

/-!
The goals of an evaluation apart from one another. What is recorded of some goals is what would be
recorded if there were no others, and a goal of which nothing can be recorded might as well not be
there.
-/

namespace ConversionTracking

namespace Database

theorem pool_idsDistinct {database : Database} (distinct : database.GoalIdsDistinct)
    (scope : Scope) (kind : TriggerKind) :
    ((database.pool scope kind).map (·.id)).Nodup := by
  rw [pool, List.map_flatMap, List.nodup_flatMap]
  constructor
  · intro goalType _
    refine ((List.mergeSort_perm _ _).map _).nodup_iff.mpr (distinct.sublist ?_)
    exact (List.filter_sublist.trans List.filter_sublist).map _
  · have differ : kind.goalTypes.Pairwise fun first second => first.name ≠ second.name := by
      cases kind <;> decide
    refine differ.imp ?_
    intro first second namesDiffer id inFirst inSecond
    obtain ⟨firstGoal, firstMember, rfl⟩ := List.mem_map.mp inFirst
    obtain ⟨secondGoal, secondMember, sameId⟩ := List.mem_map.mp inSecond
    simp only [typePool, goalsById, visibleGoals, List.mem_mergeSort, List.mem_filter,
      Bool.and_eq_true, beq_iff_eq] at firstMember secondMember
    obtain rfl := List.inj_on_of_nodup_map distinct secondMember.1.1 firstMember.1.1 sameId
    exact namesDiffer (firstMember.2.2.symm.trans secondMember.2.2)

end Database

namespace Occurrence

section

variable {occurrence : Occurrence} {scope : Scope} {goal : Goal} {database : Database}

theorem newRow?_withConversions_of_ne {added : List Conversion}
    (others : ∀ conversion ∈ added, conversion.goalId ≠ goal.id) :
    (occurrence.newRow? scope goal (database.withConversions added)).map (·.withoutId) =
      (occurrence.newRow? scope goal database).map (·.withoutId) := by
  unfold newRow?
  cases drafted : occurrence.draft? scope goal with
  | none => rfl
  | some draft =>
      have noConflict : added.any draft.conflicts = false := by
        rw [List.any_eq_false]
        intro conversion member
        rw [Conversion.conflicts_iff]
        rintro ⟨sameGoal, _⟩
        exact others conversion member (sameGoal.symm.trans (draft_fills drafted).goalId)
      simp only [Option.bind_some, Database.accepted?, Database.withConversions_conversions,
        List.any_append, noConflict, Bool.or_false]
      split <;> rfl

theorem newRows_withoutId {goals : List Goal} (distinct : (goals.map (·.id)).Nodup) :
    (occurrence.newRows scope goals database).map (·.2.withoutId) =
      goals.filterMap fun goal =>
        (occurrence.newRow? scope goal database).map (·.withoutId) := by
  induction goals generalizing database with
  | nil => rfl
  | cons first rest ih =>
      obtain ⟨firstNew, restDistinct⟩ := List.nodup_cons.mp distinct
      rw [newRows]
      cases made : occurrence.newRow? scope first database with
      | none => simp [made, ih restDistinct]
      | some row =>
          have ofOthers : ∀ goal ∈ rest,
              (occurrence.newRow? scope goal (database.withConversions [row])).map (·.withoutId) =
                (occurrence.newRow? scope goal database).map (·.withoutId) := by
            intro goal member
            apply newRow?_withConversions_of_ne
            intro conversion isRow
            obtain rfl := List.mem_singleton.mp isRow
            rw [(newRow?_fills made).goalId]
            intro same
            exact firstNew (List.mem_map.mpr ⟨goal, member, same.symm⟩)
          simp only [List.map_cons, ih restDistinct, List.filterMap_cons, made, Option.map_some]
          rw [List.filterMap_congr ofOthers]

def attempt (occurrence : Occurrence) (precheck : Precheck) (scope : Scope) (goal : Goal) :
    Work (Option Conversion) := do
  if ← occurrence.isDue precheck goal then occurrence.record scope goal else return none

inductive Fails (occurrence : Occurrence) (settings : Matcher) (goal : Goal) (database : Database) :
    Prop where
  | malformed (fault : PartFault)
      (unreadable : Conditions.read goal.goalType goal.conditions = .error fault)
  | raised (fault : Fault)
      (failed : (occurrence.attempt settings.precheck settings.scope goal).result database =
        .error fault)
  | rejected (refused : (occurrence.record settings.scope goal).result database = .ok none)

end

end Occurrence

namespace Matcher

section

variable {settings : Matcher} {trigger : Trigger} {session visitor : Value} {database : Database}

theorem mem_newRows_iff {row : Goal × Conversion} :
    row ∈ settings.newRows trigger session visitor database ↔
      ∃ occurrence ∈ Occurrence.of? trigger session visitor,
        row ∈ occurrence.newRows settings.scope (database.pool settings.scope occurrence.kind)
          database := by
  unfold newRows
  cases Occurrence.of? trigger session visitor with
  | none => simp
  | some occurrence => simp

end

end Matcher

end ConversionTracking
