import ConversionTracking.Proofs.Matching.Order
import ConversionTracking.Proofs.Store.Goals
import ConversionTracking.Proofs.Store.Scope

/-!
Changes to a goal by its id. A goal that is not within the scope is not there for them, and what they
do to one that is concerns no other row of any table.
-/

namespace ConversionTracking

/-- The work, started from the first database, returns the value and leaves the second one behind. -/
structure Work.Ends {α : Type} (work : Work α) (before : Database) (value : α) (after : Database) :
    Prop where
  result : work.result before = .ok value
  after : work.after before = after

namespace Database

/-- Afterwards the only goal of the id is the one that is given, if one is, and all other rows of all
tables are as they were. -/
structure ChangesRow (id : Int) (row : Option Goal) (before after : Database) : Prop where
  otherTables : before.SameButGoals after
  otherGoals : after.goals.filter (·.id ≠ id) = before.goals.filter (·.id ≠ id)
  changed : ∀ goal, goal ∈ after.goals ∧ goal.id = id ↔ row = some goal

variable {database : Database}

theorem changesRow_replaceGoal {stored changed : Goal} (held : stored ∈ database.goals)
    (sameId : changed.id = stored.id) :
    ChangesRow stored.id (some changed) database (database.replaceGoal changed) where
  otherTables := rfl
  otherGoals := by
    rw [replaceGoal, List.filter_map]
    have kept : (fun goal : Goal => decide (goal.id ≠ stored.id)) ∘
        (fun goal => if goal.id = changed.id then changed else goal) =
        fun goal => decide (goal.id ≠ stored.id) := by
      funext goal
      simp only [Function.comp_apply]
      split
      · rename_i isChanged
        rw [isChanged]
      · rfl
    rw [kept]
    refine (List.map_congr_left fun goal isOther => ?_).trans (List.map_id _)
    have differs := of_decide_eq_true (List.mem_filter.mp isOther).2
    exact if_neg (sameId ▸ differs)
  changed := by
    intro goal
    rw [Option.some.injEq]
    constructor
    · rintro ⟨isThere, hasId⟩
      obtain ⟨old, _, rfl⟩ := List.mem_map.mp isThere
      split at hasId
      · rename_i isChanged
        rw [if_pos isChanged]
      · rename_i isOther
        exact absurd (hasId.trans sameId.symm) isOther
    · rintro rfl
      exact ⟨List.mem_map.mpr ⟨stored, held, if_pos sameId.symm⟩, sameId⟩

theorem changesRow_removeGoal (database : Database) (id : Int) :
    ChangesRow id none database (database.removeGoal id) where
  otherTables := rfl
  otherGoals := by
    rw [removeGoal, List.filter_filter]
    simp only [Bool.and_self]
  changed := by
    intro goal
    simp [removeGoal]

end Database

namespace Goals

variable {scope : Scope} {database : Database}

section

variable {target : Target}

theorem changes_unresolved (unresolved : (resolve scope target).result database = .ok none) :
    (∀ changes, (update scope target changes).Ends database none database) ∧
      (delete scope target).Ends database false database ∧
      ∀ isActive, (setActive scope target isActive).Ends database false database := by
  refine ⟨fun changes => ⟨?_, ?_⟩, ⟨?_, ?_⟩, fun isActive => ⟨?_, ?_⟩⟩
  · rw [result_update, unresolved]
  · rw [after_update, unresolved]
  · rw [result_delete, unresolved]
    rfl
  · rw [after_delete, unresolved]
  · rw [result_setActive, unresolved]
    rfl
  · rw [after_setActive, unresolved]

variable {stored : Goal} (resolved : (resolve scope target).result database = .ok (some stored))

include resolved

theorem delete_resolved :
    ∃ after, (delete scope target).Ends database true after ∧
      database.ChangesRow stored.id none after := by
  refine ⟨database.removeGoal stored.id, ⟨?_, ?_⟩, database.changesRow_removeGoal stored.id⟩
  · rw [result_delete, resolved]
    rfl
  · rw [after_delete, resolved]

variable (held : stored ∈ database.goals)

include held

theorem setActive_resolved (isActive : Bool) :
    ∃ after, (setActive scope target isActive).Ends database true after ∧
      database.ChangesRow stored.id (some { stored with isActive }) after := by
  refine ⟨database.replaceGoal { stored with isActive }, ⟨?_, ?_⟩,
    Database.changesRow_replaceGoal held rfl⟩
  · rw [result_setActive, resolved]
    rfl
  · rw [after_setActive, resolved]

theorem update_resolved (changes : Entries) :
    (∃ changed after, (update scope target changes).Ends database (some changed) after ∧
        database.ChangesRow stored.id (some changed) after) ∨
      ((∃ fault, (update scope target changes).result database = .error fault) ∧
        (update scope target changes).after database = database) := by
  have result : (update scope target changes).result database =
      ((updateGoal stored changes).result database).map some := by
    rw [result_update, resolved]
  have after : (update scope target changes).after database =
      (updateGoal stored changes).after database := by
    rw [after_update, resolved]
  rw [after_updateGoal] at after
  cases updated : (updateGoal stored changes).result database with
  | error fault =>
      rw [updated] at result after
      exact Or.inr ⟨⟨fault, result⟩, after⟩
  | ok changed =>
      rw [updated] at result after
      rw [result_updateGoal] at updated
      obtain ⟨definition, _, made⟩ := Except.bind_eq_ok_iff.mp updated
      exact Or.inl ⟨changed, _, ⟨result, after⟩,
        Database.changesRow_replaceGoal held (Goal.id_of_revised made)⟩

end

section

variable {id : Int} (scopeFits : scope.FitsWord) (isWord : IsWord id)

include scopeFits isWord

theorem resolve_id_eq_none
    (unseen : ∀ goal ∈ database.goals, goal.id = id → ¬goal.IsWithin scope) :
    (resolve scope (.id id)).result database = .ok none := by
  have absent : (database.visibleGoals scope).find? (·.id == id) = none := by
    rw [List.find?_eq_none]
    intro goal isVisible
    obtain ⟨held, within⟩ := Database.mem_visibleGoals_iff.mp isVisible
    exact fun hasId => unseen goal held (beq_iff_eq.mp hasId) within
  rw [resolve, Work.result_read, Database.findGoal_of_fits scopeFits isWord, absent]

theorem exists_resolve_id (seen : ∃ goal ∈ database.goals, goal.id = id ∧ goal.IsWithin scope) :
    ∃ stored ∈ database.goals, stored.id = id ∧ stored.IsWithin scope ∧
      (resolve scope (.id id)).result database = .ok (some stored) := by
  obtain ⟨goal, held, hasId, within⟩ := seen
  have isFound : ((database.visibleGoals scope).find? (·.id == id)).isSome := by
    rw [List.find?_isSome]
    exact ⟨goal, Database.mem_visibleGoals_iff.mpr ⟨held, within⟩, beq_iff_eq.mpr hasId⟩
  obtain ⟨stored, found⟩ := Option.isSome_iff_exists.mp isFound
  obtain ⟨isStored, isWithin⟩ :=
    Database.mem_visibleGoals_iff.mp (List.mem_of_find?_eq_some found)
  have sameId := List.find?_some found
  refine ⟨stored, isStored, beq_iff_eq.mp sameId, isWithin, ?_⟩
  rw [resolve, Work.result_read, Database.findGoal_of_fits scopeFits isWord, found]

/-- By the id of a goal that is not there within the scope nothing is changed, and the caller is told
so. By the id of one that is, an update gives its row new content or fails and leaves all as it was, a
deletion removes the row, and a switch changes whether the goal is active. Nothing else changes in any
table. -/
theorem changes_by_id (database : Database) :
    ((∀ goal ∈ database.goals, goal.id = id → ¬goal.IsWithin scope) →
      (∀ changes, (update scope (.id id) changes).Ends database none database) ∧
      (delete scope (.id id)).Ends database false database ∧
      ∀ isActive, (setActive scope (.id id) isActive).Ends database false database) ∧
    ((∃ goal ∈ database.goals, goal.id = id ∧ goal.IsWithin scope) →
      ∃ stored ∈ database.goals, stored.id = id ∧ stored.IsWithin scope ∧
        (∀ changes,
          (∃ changed after, (update scope (.id id) changes).Ends database (some changed) after ∧
            database.ChangesRow id (some changed) after) ∨
          ((∃ fault, (update scope (.id id) changes).result database = .error fault) ∧
            (update scope (.id id) changes).after database = database)) ∧
        (∃ after, (delete scope (.id id)).Ends database true after ∧
          database.ChangesRow id none after) ∧
        ∀ isActive, ∃ after, (setActive scope (.id id) isActive).Ends database true after ∧
          database.ChangesRow id (some { stored with isActive }) after) := by
  constructor
  · intro unseen
    exact changes_unresolved (resolve_id_eq_none scopeFits isWord unseen)
  · intro seen
    obtain ⟨stored, held, rfl, within, resolved⟩ := exists_resolve_id scopeFits isWord seen
    exact ⟨stored, held, rfl, within, update_resolved resolved held, delete_resolved resolved,
      setActive_resolved resolved held⟩

end

def signupsOfTwoSites : Database :=
  { Database.empty with
    goals := [{ Matcher.signupGoal with siteId := some 2 }, { Matcher.signupGoal with id := 2 }] }

theorem foreign_signup_kept :
    let scope : Scope := ⟨some 1, some "blue"⟩
    (delete scope (.id 1)).Ends signupsOfTwoSites false signupsOfTwoSites ∧
      ∃ after, (delete scope (.id 2)).Ends signupsOfTwoSites true after ∧
        signupsOfTwoSites.ChangesRow 2 none after := by
  intro scope
  have scopeFits : scope.FitsWord := by
    intro site isSite
    obtain rfl := Option.some.inj isSite
    decide
  constructor
  · have unseen : ∀ goal ∈ signupsOfTwoSites.goals, goal.id = 1 → ¬goal.IsWithin scope := by
      decide
    exact ((changes_by_id scopeFits (by decide : IsWord 1) signupsOfTwoSites).1 unseen).2.1
  · have seen : ∃ goal ∈ signupsOfTwoSites.goals, goal.id = 2 ∧ goal.IsWithin scope := by
      decide
    obtain ⟨_, _, _, _, _, deleted, _⟩ :=
      (changes_by_id scopeFits (by decide : IsWord 2) signupsOfTwoSites).2 seen
    exact deleted

end Goals

end ConversionTracking
