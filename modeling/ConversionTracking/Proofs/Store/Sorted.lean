import ConversionTracking.Proofs.Store.Goals
import ConversionTracking.Proofs.Store.Scope
import ConversionTracking.Proofs.Text.ByteOrder
import Mathlib.Data.List.Nodup

/-!
Goals in order. No two goals have one id, so there is one order by id and one by name and id, whatever
is left out before the goals are sorted. The first goal of a name is the one with the lowest id.
-/

namespace ConversionTracking

namespace Goal

structure IsOrder (before : Goal → Goal → Bool) : Prop where
  transitive : ∀ first second third, before first second = true → before second third = true →
    before first third = true
  total : ∀ first second, (before first second || before second first) = true
  sameId : ∀ first second, before first second = true → before second first = true →
    first.id = second.id

namespace IsOrder

variable {before : Goal → Goal → Bool} (isOrder : IsOrder before)

include isOrder

theorem pairwise_mergeSort (goals : List Goal) :
    (goals.mergeSort before).Pairwise fun left right => before left right = true :=
  List.pairwise_mergeSort isOrder.transitive isOrder.total goals

theorem mergeSort_filter {goals : List Goal} (distinct : (goals.map (·.id)).Nodup)
    (keep : Goal → Bool) :
    (goals.filter keep).mergeSort before = (goals.mergeSort before).filter keep := by
  refine List.Perm.eq_of_pairwise ?_ (isOrder.pairwise_mergeSort _)
    ((isOrder.pairwise_mergeSort goals).filter keep) ?_
  · intro left right leftMember rightMember below above
    simp only [List.mem_mergeSort, List.mem_filter] at leftMember rightMember
    exact List.inj_on_of_nodup_map distinct leftMember.1 rightMember.1
      (isOrder.sameId left right below above)
  · exact (List.mergeSort_perm _ _).trans ((List.mergeSort_perm goals _).symm.filter keep)

theorem strictly_sorted {goals : List Goal} (distinct : (goals.map (·.id)).Nodup) :
    (goals.mergeSort before).Pairwise fun left right =>
      before left right = true ∧ left.id ≠ right.id := by
  have ids : ((goals.mergeSort before).map (·.id)).Nodup :=
    ((List.mergeSort_perm goals before).map _).nodup_iff.mpr distinct
  exact (isOrder.pairwise_mergeSort goals).and (List.pairwise_map.mp ids)

end IsOrder

theorem isOrder_id : IsOrder fun left right => decide (left.id ≤ right.id) where
  transitive first second third := by simpa using Int.le_trans
  total first second := by simpa using Int.le_total first.id second.id
  sameId first second := by simpa using fun below above => Int.le_antisymm below above

theorem isOrder_name : IsOrder fun left right =>
    left.name < right.name || (left.name == right.name && left.id ≤ right.id) := by
  constructor
  case transitive =>
    intro first second third
    simp only [Bool.or_eq_true, Bool.and_eq_true, decide_eq_true_eq, beq_iff_eq]
    rintro (firstBefore | ⟨sameFirst, below⟩) (secondBefore | ⟨sameSecond, above⟩)
    · exact Or.inl (String.lt_trans firstBefore secondBefore)
    · exact Or.inl (sameSecond ▸ firstBefore)
    · exact Or.inl (sameFirst ▸ secondBefore)
    · exact Or.inr ⟨sameFirst.trans sameSecond, Int.le_trans below above⟩
  case total =>
    intro first second
    simp only [Bool.or_eq_true, Bool.and_eq_true, decide_eq_true_eq, beq_iff_eq]
    rcases Std.lt_trichotomy first.name second.name with isBefore | same | isAfter
    · exact Or.inl (Or.inl isBefore)
    · rcases Int.le_total first.id second.id with below | above
      · exact Or.inl (Or.inr ⟨same, below⟩)
      · exact Or.inr (Or.inr ⟨same.symm, above⟩)
    · exact Or.inr (Or.inl isAfter)
  case sameId =>
    intro first second
    simp only [Bool.or_eq_true, Bool.and_eq_true, decide_eq_true_eq, beq_iff_eq]
    rintro (isBefore | ⟨same, below⟩) (isAfter | ⟨sameBack, above⟩)
    · exact absurd isAfter (String.lt_asymm isBefore)
    · exact absurd isBefore (sameBack ▸ String.lt_irrefl _)
    · exact absurd isAfter (same ▸ String.lt_irrefl _)
    · exact Int.le_antisymm below above

def Precedes (left right : Goal) : Prop :=
  utf8Bytes left.name < utf8Bytes right.name ∨ left.name = right.name ∧ left.id < right.id

end Goal

namespace Database

section

variable {goals : List Goal} (distinct : (goals.map (·.id)).Nodup)

include distinct

theorem goalsByName_filter (keep : Goal → Bool) :
    goalsByName (goals.filter keep) = (goalsByName goals).filter keep :=
  Goal.isOrder_name.mergeSort_filter distinct keep

theorem goalsById_sorted : (goalsById goals).Pairwise fun left right => left.id < right.id := by
  refine (Goal.isOrder_id.strictly_sorted distinct).imp fun sorted => ?_
  exact Int.lt_iff_le_and_ne.mpr ⟨of_decide_eq_true sorted.1, sorted.2⟩

theorem goalsByName_sorted : (goalsByName goals).Pairwise Goal.Precedes := by
  refine (Goal.isOrder_name.strictly_sorted distinct).imp fun {left right} sorted => ?_
  obtain ⟨ordered, differ⟩ := sorted
  simp only [Bool.or_eq_true, Bool.and_eq_true, decide_eq_true_eq, beq_iff_eq] at ordered
  rcases ordered with isBefore | ⟨sameName, below⟩
  · exact Or.inl ((lt_iff_utf8Bytes_lt _ _).mp isBefore)
  · exact Or.inr ⟨sameName, Int.lt_iff_le_and_ne.mpr ⟨below, differ⟩⟩

end

def goalNamed (database : Database) (scope : Scope) (name : String) : Option Goal :=
  (goalsById (database.visibleGoals scope)).find? (·.name == name)

variable {database : Database} {scope : Scope} {name : String} {goal : Goal}

theorem findGoalByName_of_fits (fits : scope.FitsWord) :
    database.findGoalByName scope name = .ok (database.goalNamed scope name) := by
  rw [findGoalByName, Scope.check_of_fits fits]
  rfl

theorem goalIds_visible (distinct : database.GoalIdsDistinct) (scope : Scope) :
    ((database.visibleGoals scope).map (·.id)).Nodup :=
  distinct.sublist (List.filter_sublist.map _)

theorem goalNamed_eq_none_iff :
    database.goalNamed scope name = none ↔
      ∀ goal ∈ database.goals, goal.IsWithin scope → goal.name ≠ name := by
  rw [goalNamed, List.find?_eq_none]
  simp only [goalsById, List.mem_mergeSort, mem_visibleGoals_iff, beq_iff_eq, and_imp]

theorem mem_of_goalNamed (named : database.goalNamed scope name = some goal) :
    goal ∈ database.goals ∧ goal.name = name := by
  rw [goalNamed] at named
  have isSeen := List.mem_of_find?_eq_some named
  have isNamed := List.find?_some named
  rw [goalsById, List.mem_mergeSort, mem_visibleGoals_iff] at isSeen
  exact ⟨isSeen.1, beq_iff_eq.mp isNamed⟩

theorem goalNamed_eq_some_iff (distinct : database.GoalIdsDistinct) :
    database.goalNamed scope name = some goal ↔
      (goal ∈ database.goals ∧ goal.IsWithin scope ∧ goal.name = name) ∧
        ∀ other ∈ database.goals, other.IsWithin scope → other.name = name →
          goal.id ≤ other.id := by
  have isLeast {goal : Goal} (found : database.goalNamed scope name = some goal) :
      (goal ∈ database.goals ∧ goal.IsWithin scope ∧ goal.name = name) ∧
        ∀ other ∈ database.goals, other.IsWithin scope → other.name = name →
          goal.id ≤ other.id := by
    obtain ⟨isNamed, before, after, split, notBefore⟩ := List.find?_eq_some_iff_append.mp found
    have member (other : Goal) : other ∈ goalsById (database.visibleGoals scope) ↔
        other ∈ database.goals ∧ other.IsWithin scope := by
      rw [goalsById, List.mem_mergeSort, mem_visibleGoals_iff]
    have sorted := goalsById_sorted (database.goalIds_visible distinct scope)
    rw [split] at member sorted
    obtain ⟨isStored, isWithin⟩ := (member goal).mp (by simp)
    refine ⟨⟨isStored, isWithin, beq_iff_eq.mp isNamed⟩, fun other isOther within sameName => ?_⟩
    rcases List.mem_append.mp ((member other).mpr ⟨isOther, within⟩) with isBefore | isLater
    · have unnamed := notBefore other isBefore
      simp [sameName] at unnamed
    · rcases List.mem_cons.mp isLater with rfl | isAfter
      · exact Int.le_refl _
      · have ofTail := (List.pairwise_append.mp sorted).2.1
        exact Int.le_of_lt ((List.pairwise_cons.mp ofTail).1 other isAfter)
  refine ⟨isLeast, ?_⟩
  rintro ⟨⟨isStored, isWithin, isNamed⟩, least⟩
  cases found : database.goalNamed scope name with
  | none => exact absurd isNamed (goalNamed_eq_none_iff.mp found goal isStored isWithin)
  | some first =>
      obtain ⟨⟨isHeld, within, hasName⟩, isFirst⟩ := isLeast found
      have sameId := Int.le_antisymm (isFirst goal isStored isWithin isNamed)
        (least first isHeld within hasName)
      rw [List.inj_on_of_nodup_map distinct isHeld isStored sameId]

end Database

end ConversionTracking
