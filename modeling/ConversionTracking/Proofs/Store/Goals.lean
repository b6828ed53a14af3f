import ConversionTracking.GoalsFile
import ConversionTracking.Proofs.Store.Database
import ConversionTracking.Proofs.Value.Entries
import Mathlib.Logic.Relation
import Mathlib.Order.Defs.Unbundled

/-!
The table of goals: goals are added to it at its end, replaced in their places and removed from it,
and what manages goals concerns no other table.
-/

namespace ConversionTracking

namespace Goal

section

variable {definition : GoalDefinition} {goal : Goal}

theorem id_of_ofParts {id : Int} {conditions funnelSteps : Value}
    (made : ofParts id definition conditions funnelSteps = .ok goal) : goal.id = id := by
  unfold ofParts at made
  cases site : definition.siteId with
  | none =>
      simp only [site] at made
      cases made
      rfl
  | some siteId =>
      simp only [site] at made
      obtain ⟨_, _, made⟩ := Except.bind_eq_ok_iff.mp made
      cases made
      rfl

theorem id_of_ofDefinition {id : Int} (made : ofDefinition id definition = .ok goal) :
    goal.id = id := by
  obtain ⟨_, _, made⟩ := Except.bind_eq_ok_iff.mp made
  obtain ⟨_, _, made⟩ := Except.bind_eq_ok_iff.mp made
  exact id_of_ofParts made

theorem id_of_revised {stored : Goal} (made : stored.revised definition = .ok goal) :
    goal.id = stored.id := by
  obtain ⟨_, _, made⟩ := Except.bind_eq_ok_iff.mp made
  obtain ⟨_, _, made⟩ := Except.bind_eq_ok_iff.mp made
  exact id_of_ofParts made

end

end Goal

namespace Database

def goalIds (database : Database) : List Int := database.goals.map (·.id)

def addGoal (database : Database) (goal : Goal) : Database :=
  { database with goals := database.goals ++ [goal] }

def SameButGoals (before after : Database) : Prop := { before with goals := after.goals } = after

instance : IsPreorder Database SameButGoals where
  refl _ := rfl
  trans first second third firstSame secondSame := by
    unfold SameButGoals at *
    rw [← secondSame, ← firstSame]

def LosesNoGoal (before after : Database) : Prop := before.goalIds ⊆ after.goalIds

instance : IsPreorder Database LosesNoGoal where
  refl database := List.Subset.refl database.goalIds
  trans _ _ _ first second := List.Subset.trans first second

theorem goalIds_addGoal (database : Database) (goal : Goal) :
    (database.addGoal goal).goalIds = database.goalIds ++ [goal.id] := by
  simp [goalIds, addGoal]

def GoalIdsDistinct (database : Database) : Prop := database.goalIds.Nodup

def KeepsIdsDistinct (before after : Database) : Prop :=
  before.GoalIdsDistinct → after.GoalIdsDistinct

instance : IsPreorder Database KeepsIdsDistinct where
  refl _ := id
  trans _ _ _ first second distinct := second (first distinct)

theorem goalIds_replaceGoal (database : Database) (changed : Goal) :
    (database.replaceGoal changed).goalIds = database.goalIds := by
  simp only [goalIds, replaceGoal, List.map_map]
  apply List.map_congr_left
  intro goal _
  simp only [Function.comp_apply]
  split
  · rename_i same
    exact same.symm
  · rfl

theorem keepsIdsDistinct_addGoal {database : Database} {goal : Goal}
    (isNext : goal.id = database.nextId database.goalIds) :
    database.KeepsIdsDistinct (database.addGoal goal) := by
  intro distinct
  rw [GoalIdsDistinct, goalIds_addGoal, isNext]
  refine List.nodup_append.mpr ⟨distinct, by simp, ?_⟩
  intro id member next isSingle same
  obtain rfl := List.mem_singleton.mp isSingle
  exact database.nextId_notMem database.goalIds (same ▸ member)

theorem keepsIdsDistinct_replaceGoal (database : Database) (goal : Goal) :
    database.KeepsIdsDistinct (database.replaceGoal goal) := by
  intro distinct
  rw [GoalIdsDistinct, goalIds_replaceGoal]
  exact distinct

theorem keepsIdsDistinct_removeGoal (database : Database) (id : Int) :
    database.KeepsIdsDistinct (database.removeGoal id) := by
  intro distinct
  exact List.Nodup.sublist (List.Sublist.map _ List.filter_sublist) distinct

/-- One change to the table of goals that removes none: a goal with a valid definition is added, a
goal in the table is given a valid definition, or one is switched on or off. -/
inductive GoalChange (database : Database) : Database → Prop where
  | added {attributes : Entries} {definition : GoalDefinition} {goal : Goal}
      (valid : (GoalDefinition.validate attributes).result = .ok definition)
      (made : Goal.ofDefinition (database.nextId database.goalIds) definition = .ok goal) :
      GoalChange database (database.addGoal goal)
  | revised {stored changed : Goal} {attributes : Entries} {definition : GoalDefinition}
      (held : stored ∈ database.goals)
      (valid : (GoalDefinition.validate attributes).result = .ok definition)
      (made : stored.revised definition = .ok changed) :
      GoalChange database (database.replaceGoal changed)
  | switched {stored : Goal} (held : stored ∈ database.goals) (isActive : Bool) :
      GoalChange database (database.replaceGoal { stored with isActive })

abbrev GoalChanges : Database → Database → Prop := Relation.ReflTransGen GoalChange

theorem GoalChanges.related {relation : Database → Database → Prop} [IsPreorder Database relation]
    {before after : Database} (changes : before.GoalChanges after)
    (adds : ∀ (database : Database) (goal : Goal), goal.id = database.nextId database.goalIds →
      relation database (database.addGoal goal))
    (replaces : ∀ database goal, relation database (database.replaceGoal goal)) :
    relation before after := by
  induction changes with
  | refl => exact refl before
  | tail _ change ih =>
      refine IsTrans.trans _ _ _ ih ?_
      cases change with
      | added _ made => exact adds _ _ (Goal.id_of_ofDefinition made)
      | revised _ _ _ => exact replaces _ _
      | switched _ isActive => exact replaces _ _

theorem insertDefinition_eq (database : Database) (definition : GoalDefinition) :
    database.insertDefinition definition =
      (Goal.ofDefinition (database.nextId database.goalIds) definition).map
        fun goal => (goal, database.addGoal goal) := by
  unfold insertDefinition
  rw [goalIds]
  cases Goal.ofDefinition (database.nextId (database.goals.map (·.id))) definition <;> rfl

theorem mem_of_findGoal {database : Database} {scope : Scope} {id : Int} {goal : Goal}
    (found : database.findGoal scope id = .ok (some goal)) : goal ∈ database.goals := by
  simp only [findGoal, Except.bind_eq_ok_iff, pure, Except.pure, Except.ok.injEq] at found
  obtain ⟨_, _, _, _, found⟩ := found
  exact (List.mem_filter.mp (List.mem_of_find?_eq_some found)).1

theorem mem_of_findGoalByName {database : Database} {scope : Scope} {name : String} {goal : Goal}
    (found : database.findGoalByName scope name = .ok (some goal)) :
    goal ∈ database.goals ∧ goal.name = name := by
  simp only [findGoalByName, Except.bind_eq_ok_iff, pure, Except.pure, Except.ok.injEq] at found
  obtain ⟨_, _, found⟩ := found
  have isNamed := List.find?_some found
  have member := List.mem_of_find?_eq_some found
  rw [goalsById, List.mem_mergeSort] at member
  exact ⟨(List.mem_filter.mp member).1, by simpa using isNamed⟩

end Database

namespace Goals

theorem byKeyword_cases {α : Type} (bound : List String) (call : Entries → Work α)
    (entries : Entries) :
    ((∀ entry ∈ entries, ∃ name ∉ bound, entry.1 = .text name) ∧
        byKeyword bound call entries = call entries) ∨
      ((∃ entry ∈ entries, ∀ name ∉ bound, entry.1 ≠ .text name) ∧
        byKeyword bound call entries = Work.ofExcept (.error .kindMismatch)) := by
  have free_iff : ∀ key : Value, key.text?.any (!bound.contains ·) = true ↔
      ∃ name ∉ bound, key = .text name := by
    intro key
    simp only [Option.any_eq_true, Value.text?_eq_some_iff, Bool.not_eq_true',
      List.contains_eq_mem, decide_eq_false_iff_not]
    exact exists_congr fun name => and_comm
  rw [byKeyword]
  split
  · rename_i areFree
    rw [List.all_eq_true] at areFree
    exact .inl ⟨fun entry member => (free_iff entry.1).mp (areFree entry member), rfl⟩
  · rename_i notFree
    simp only [List.all_eq_true, not_forall, free_iff] at notFree
    obtain ⟨entry, member, isBound⟩ := notFree
    exact .inr ⟨⟨entry, member, fun name free isName => isBound ⟨name, free, isName⟩⟩, rfl⟩

variable (scope : Scope) (database : Database)

theorem result_create (attributes : Entries) :
    (create scope attributes).result database =
      (GoalDefinition.validate (scopedAttributes scope attributes)).result.bind
        (Goal.ofDefinition (database.nextId database.goalIds)) := by
  unfold create
  rw [Work.result_bind, Work.result_ofOutcome]
  cases (GoalDefinition.validate (scopedAttributes scope attributes)).result with
  | error fault => rfl
  | ok definition =>
      simp only [Work.result_change, Work.after_ofOutcome, Except.bind,
        Database.insertDefinition_eq]
      cases Goal.ofDefinition (database.nextId database.goalIds) definition <;> rfl

theorem after_create (attributes : Entries) :
    (create scope attributes).after database =
      match (create scope attributes).result database with
      | .ok goal => database.addGoal goal
      | .error _ => database := by
  rw [result_create]
  unfold create
  rw [Work.after_bind, Work.result_ofOutcome]
  cases (GoalDefinition.validate (scopedAttributes scope attributes)).result with
  | error fault => rfl
  | ok definition =>
      simp only [Work.after_change, Work.after_ofOutcome, Except.bind,
        Database.insertDefinition_eq]
      cases Goal.ofDefinition (database.nextId database.goalIds) definition <;> rfl

theorem result_updateGoal (goal : Goal) (changes : Entries) :
    (updateGoal goal changes).result database =
      (GoalDefinition.validate (goal.toEntries.merge changes)).result.bind goal.revised := by
  unfold updateGoal
  rw [Work.result_bind, Work.result_ofOutcome]
  cases (GoalDefinition.validate (goal.toEntries.merge changes)).result with
  | error fault => rfl
  | ok definition =>
      simp only [Work.result_change, Except.bind]
      cases goal.revised definition <;> rfl

theorem after_updateGoal (goal : Goal) (changes : Entries) :
    (updateGoal goal changes).after database =
      match (updateGoal goal changes).result database with
      | .ok changed => database.replaceGoal changed
      | .error _ => database := by
  rw [result_updateGoal]
  unfold updateGoal
  rw [Work.after_bind, Work.result_ofOutcome]
  cases (GoalDefinition.validate (goal.toEntries.merge changes)).result with
  | error fault => rfl
  | ok definition =>
      simp only [Work.after_change, Work.after_ofOutcome, Except.bind]
      cases goal.revised definition <;> rfl

theorem result_get (id : Int) :
    (get scope id).result database =
      match database.findGoal scope id with
      | .ok (some goal) => .ok goal
      | .ok none => .error (.goalNotFound id)
      | .error fault => .error fault := by
  rw [get, Work.result_bind, Work.result_read]
  generalize database.findGoal scope id = result
  rcases result with fault | _ | goal <;> rfl

theorem after_get (id : Int) : (get scope id).after database = database := by
  rw [get, Work.after_bind, Work.result_read]
  generalize database.findGoal scope id = result
  rcases result with fault | _ | goal <;> rfl

@[simp] theorem after_resolve (target : Target) : (resolve scope target).after database = database := by
  cases target <;> rfl

theorem result_resolve_goal (goal : Option Goal) :
    (resolve scope (.goal goal)).result database = .ok goal := rfl

theorem result_update (target : Target) (changes : Entries) :
    (update scope target changes).result database =
      match (resolve scope target).result database with
      | .ok (some goal) => ((updateGoal goal changes).result database).map some
      | .ok none => .ok none
      | .error fault => .error fault := by
  unfold update
  rw [Work.result_bind, after_resolve]
  cases (resolve scope target).result database with
  | error fault => rfl
  | ok found =>
      cases found with
      | none => rfl
      | some goal =>
          simp only [Work.result_bind]
          cases (updateGoal goal changes).result database <;> rfl

theorem after_update (target : Target) (changes : Entries) :
    (update scope target changes).after database =
      match (resolve scope target).result database with
      | .ok (some goal) => (updateGoal goal changes).after database
      | _ => database := by
  unfold update
  rw [Work.after_bind, after_resolve]
  cases (resolve scope target).result database with
  | error fault => rfl
  | ok found =>
      cases found with
      | none => rfl
      | some goal =>
          simp only [Work.after_bind]
          cases (updateGoal goal changes).result database <;> rfl

theorem result_setActive (target : Target) (isActive : Bool) :
    (setActive scope target isActive).result database =
      ((resolve scope target).result database).map Option.isSome := by
  unfold setActive
  rw [Work.result_bind, after_resolve]
  cases (resolve scope target).result database with
  | error fault => rfl
  | ok found => cases found <;> rfl

theorem result_delete (target : Target) :
    (delete scope target).result database =
      ((resolve scope target).result database).map Option.isSome := by
  unfold delete
  rw [Work.result_bind, after_resolve]
  cases (resolve scope target).result database with
  | error fault => rfl
  | ok found => cases found <;> rfl

theorem after_setActive (target : Target) (isActive : Bool) :
    (setActive scope target isActive).after database =
      match (resolve scope target).result database with
      | .ok (some goal) => database.replaceGoal { goal with isActive }
      | _ => database := by
  unfold setActive
  rw [Work.after_bind, after_resolve]
  cases (resolve scope target).result database with
  | error fault => rfl
  | ok found => cases found <;> rfl

theorem after_delete (target : Target) :
    (delete scope target).after database =
      match (resolve scope target).result database with
      | .ok (some goal) => database.removeGoal goal.id
      | _ => database := by
  unfold delete
  rw [Work.after_bind, after_resolve]
  cases (resolve scope target).result database with
  | error fault => rfl
  | ok found => cases found <;> rfl

variable {scope database}

theorem result_create_eq_ok {attributes : Entries} {goal : Goal}
    (created : (create scope attributes).result database = .ok goal) :
    goal.id = database.nextId database.goalIds ∧
      (create scope attributes).after database = database.addGoal goal := by
  constructor
  · rw [result_create] at created
    obtain ⟨definition, _, made⟩ := Except.bind_eq_ok_iff.mp created
    exact Goal.id_of_ofDefinition made
  · rw [after_create, created]

theorem changes_create (scope : Scope) (attributes : Entries) (database : Database) :
    database.GoalChanges ((create scope attributes).after database) := by
  rw [after_create]
  cases created : (create scope attributes).result database with
  | error fault => exact .refl
  | ok goal =>
      rw [result_create] at created
      obtain ⟨definition, valid, made⟩ := Except.bind_eq_ok_iff.mp created
      exact .single (.added valid made)

theorem changes_updateGoal {goal : Goal} (held : goal ∈ database.goals) (changes : Entries) :
    database.GoalChanges ((updateGoal goal changes).after database) := by
  rw [after_updateGoal]
  cases updated : (updateGoal goal changes).result database with
  | error fault => exact .refl
  | ok changed =>
      rw [result_updateGoal] at updated
      obtain ⟨definition, valid, made⟩ := Except.bind_eq_ok_iff.mp updated
      exact .single (.revised held valid made)

section

variable {target : Target}
  (held : ∀ goal, (resolve scope target).result database = .ok (some goal) → goal ∈ database.goals)

include held

theorem changes_update (changes : Entries) :
    database.GoalChanges ((update scope target changes).after database) := by
  rw [after_update]
  split
  · rename_i goal found
    exact changes_updateGoal (held goal found) changes
  · exact .refl

theorem changes_setActive (isActive : Bool) :
    database.GoalChanges ((setActive scope target isActive).after database) := by
  rw [after_setActive]
  split
  · rename_i goal found
    exact .single (.switched (held goal found) isActive)
  · exact .refl

end

end Goals

namespace GoalsFile

theorem changes_syncOne (scope : Scope) (counts : SyncCounts) (definition : GoalDefinition)
    (database : Database) :
    database.GoalChanges ((syncOne scope counts definition).after database) := by
  unfold syncOne
  rw [Work.after_bind, Work.result_read, Work.after_read]
  cases found : database.findGoalByName scope definition.name with
  | error fault => exact .refl
  | ok existing =>
      cases existing with
      | none =>
          have created := Goals.changes_create scope (givenFields definition) database
          simp only [Work.after_bind]
          cases (Goals.create scope (givenFields definition)).result database <;> exact created
      | some goal =>
          have held (other : Goal)
              (isFound : (Goals.resolve scope (.goal (some goal))).result database =
                .ok (some other)) : other ∈ database.goals := by
            obtain rfl := Option.some.inj (Except.ok.inj isFound)
            exact (Database.mem_of_findGoalByName found).1
          have updated := Goals.changes_update held (unscopedFields definition)
          simp only [Work.after_bind]
          cases (Goals.update scope (.goal (some goal)) (unscopedFields definition)).result
            database <;> exact updated

theorem changes_sync (scope : Scope) (counts : SyncCounts) (definitions : List GoalDefinition)
    (database : Database) :
    database.GoalChanges ((sync scope counts definitions).after database) := by
  induction definitions generalizing counts database with
  | nil => exact .refl
  | cons definition rest ih =>
      have first := changes_syncOne scope counts definition database
      rw [sync, Work.after_bind]
      cases (syncOne scope counts definition).result database with
      | error fault => exact first
      | ok counted => exact first.trans (ih counted _)

end GoalsFile

end ConversionTracking
