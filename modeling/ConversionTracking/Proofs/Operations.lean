import ConversionTracking.Proofs.Matching.Evaluate
import ConversionTracking.Proofs.Store.Goals

/-!
Operations on the database, one after another: calls of the service that manages goals, direct
insertions of conversions, and evaluations of triggers.
-/

namespace ConversionTracking

/-- A goal to be changed: the id of one that the scope has to see, or the stored goal itself. -/
inductive GoalHandle where
  | byId (goalId : Int)
  | stored (goalId : Int)

def GoalHandle.target (database : Database) : GoalHandle → Goals.Target
  | .byId goalId => .id goalId
  | .stored goalId => .goal (database.goals.find? (·.id == goalId))

inductive ServiceCall where
  | create (attributes : Entries)
  | update (handle : GoalHandle) (changes : Entries)
  | delete (handle : GoalHandle)
  | setActive (handle : GoalHandle) (isActive : Bool)
  | sync (definitions : List GoalDefinition)

def ServiceCall.after (scope : Scope) (database : Database) : ServiceCall → Database
  | .create attributes => (Goals.create scope attributes).after database
  | .update handle changes => (Goals.update scope (handle.target database) changes).after database
  | .delete handle => (Goals.delete scope (handle.target database)).after database
  | .setActive handle isActive =>
      (Goals.setActive scope (handle.target database) isActive).after database
  | .sync definitions => (GoalsFile.sync scope ⟨0, 0⟩ definitions).after database

inductive Operation where
  | service (scope : Scope) (call : ServiceCall)
  | insert (fields : ConversionFields)
  | evaluate (settings : Matcher) (trigger : Trigger) (session visitor : Value)

structure Database.Regular (database : Database) : Prop where
  idsDistinct : database.GoalIdsDistinct
  keysUnique : database.KeysUnique

theorem Database.regular_empty (ids : IdDraw) : (empty ids).Regular :=
  ⟨List.nodup_nil, keysUnique_empty ids⟩

structure Recording where
  occurrence : Occurrence
  conversion : Conversion

namespace Operation

def after (database : Database) : Operation → Database
  | .service scope call => call.after scope database
  | .insert fields => (Conversions.insert fields).after database
  | .evaluate settings trigger session visitor =>
      (settings.evaluate trigger session visitor).after database

def recorded (database : Database) : Operation → List Recording
  | .evaluate settings trigger session visitor =>
      match Occurrence.of? trigger session visitor,
        (settings.evaluate trigger session visitor).result database with
      | some occurrence, .ok evaluation => evaluation.conversions.map (⟨occurrence, ·⟩)
      | _, _ => []
  | _ => []

def run (operations : List Operation) (database : Database) : Database :=
  operations.foldl after database

def recordings : List Operation → Database → List Recording
  | [], _ => []
  | operation :: rest, database =>
      operation.recorded database ++ recordings rest (operation.after database)

def inserted (database : Database) : Operation → List Conversion
  | .service _ _ => []
  | .insert fields => (Conversions.stored? ((Conversions.insert fields).result database)).toList
  | .evaluate settings trigger session visitor =>
      (settings.newRows trigger session visitor database).map Prod.snd

end Operation

theorem GoalHandle.mem_of_resolve {handle : GoalHandle} {scope : Scope} {database : Database}
    {goal : Goal}
    (found : (Goals.resolve scope (handle.target database)).result database = .ok (some goal)) :
    goal ∈ database.goals := by
  cases handle with
  | byId goalId => exact Database.mem_of_findGoal found
  | stored goalId => exact List.mem_of_find?_eq_some (Except.ok.inj found)

theorem ServiceCall.after_cases (call : ServiceCall) (scope : Scope) (database : Database) :
    database.GoalChanges (call.after scope database) ∨
      ∃ handle goalId, call = .delete handle ∧
        call.after scope database = database.removeGoal goalId := by
  cases call with
  | create attributes => exact Or.inl (Goals.changes_create scope attributes database)
  | update handle changes =>
      exact Or.inl (Goals.changes_update (fun _ => GoalHandle.mem_of_resolve) changes)
  | delete handle =>
      rw [after, Goals.after_delete]
      split
      · rename_i goal _
        exact Or.inr ⟨handle, goal.id, rfl, rfl⟩
      · exact Or.inl .refl
  | setActive handle isActive =>
      exact Or.inl (Goals.changes_setActive (fun _ => GoalHandle.mem_of_resolve) isActive)
  | sync definitions => exact Or.inl (GoalsFile.changes_sync scope ⟨0, 0⟩ definitions database)

theorem ServiceCall.after_related {relation : Database → Database → Prop}
    [IsPreorder Database relation] (call : ServiceCall)
    (adds : ∀ (database : Database) (goal : Goal), goal.id = database.nextId database.goalIds →
      relation database (database.addGoal goal))
    (replaces : ∀ database goal, relation database (database.replaceGoal goal))
    (removes : (∃ handle, call = .delete handle) →
      ∀ database id, relation database (database.removeGoal id))
    (scope : Scope) (database : Database) : relation database (call.after scope database) := by
  rcases call.after_cases scope database with changes | ⟨handle, goalId, isDelete, left⟩
  · exact changes.related adds replaces
  · rw [left]
    exact removes ⟨handle, isDelete⟩ database goalId

theorem ServiceCall.sameButGoals (call : ServiceCall) (scope : Scope) (database : Database) :
    database.SameButGoals (call.after scope database) :=
  call.after_related (fun _ _ _ => rfl) (fun _ _ => rfl) (fun _ _ _ => rfl) scope database

theorem ServiceCall.losesNoGoal {call : ServiceCall} (notDelete : ∀ handle, call ≠ .delete handle)
    (scope : Scope) (database : Database) : database.LosesNoGoal (call.after scope database) := by
  refine call.after_related ?_ ?_ ?_ scope database
  · intro database goal _
    rw [Database.LosesNoGoal, Database.goalIds_addGoal]
    exact List.subset_append_left _ _
  · intro database goal
    rw [Database.LosesNoGoal, Database.goalIds_replaceGoal]
    exact List.Subset.refl _
  · rintro ⟨handle, isDelete⟩
    exact absurd isDelete (notDelete handle)

namespace Operation

theorem recorded_evaluate (settings : Matcher) (trigger : Trigger) (session visitor : Value)
    (database : Database) :
    (Operation.evaluate settings trigger session visitor).recorded database =
      match Occurrence.of? trigger session visitor with
      | none => []
      | some occurrence =>
          (settings.newRows trigger session visitor database).map
            fun row => ⟨occurrence, row.2⟩ := by
  simp only [recorded]
  cases known : Occurrence.of? trigger session visitor with
  | none => rfl
  | some occurrence =>
      rw [Matcher.result_evaluate_of_occurrence settings trigger session visitor database known]
      cases readable : settings.scope.check with
      | ok _ => simp [Except.map, Evaluation.ofRows]
      | error fault =>
          simp [Except.map, Matcher.newRows, known, Matcher.newRows_of_unreadable _ readable]

theorem conversions_after (operation : Operation) (database : Database) :
    (operation.after database).conversions =
      database.conversions ++ operation.inserted database := by
  cases operation with
  | service scope call =>
      have same := call.sameButGoals scope database
      simp only [after, inserted, List.append_nil]
      rw [← same]
  | insert fields =>
      simp only [after, inserted, Conversions.after_insert, Database.withConversions_conversions]
  | evaluate settings trigger session visitor =>
      simp only [after, inserted, Matcher.after_evaluate, Database.withConversions_conversions]

theorem recorded_conversions {operation : Operation}
    (notInsert : ∀ fields, operation ≠ .insert fields) (database : Database) :
    (operation.recorded database).map (·.conversion) = operation.inserted database := by
  cases operation with
  | service scope call => rfl
  | insert fields => exact absurd rfl (notInsert fields)
  | evaluate settings trigger session visitor =>
      rw [recorded_evaluate]
      simp only [inserted, Matcher.newRows]
      cases Occurrence.of? trigger session visitor with
      | none => rfl
      | some occurrence => simp [Function.comp_def]

theorem recorded_sublist (operation : Operation) (database : Database) :
    ((operation.recorded database).map (·.conversion)).Sublist (operation.inserted database) := by
  by_cases isInsert : ∃ fields, operation = .insert fields
  · obtain ⟨fields, rfl⟩ := isInsert
    exact List.nil_sublist _
  · have same := recorded_conversions (fun fields same => isInsert ⟨fields, same⟩) database
    exact same ▸ List.Sublist.refl _

theorem conversions_run {operations : List Operation}
    (noInsert : ∀ fields, Operation.insert fields ∉ operations) (database : Database) :
    (run operations database).conversions =
      database.conversions ++ (recordings operations database).map (·.conversion) := by
  induction operations generalizing database with
  | nil => simp [run, recordings]
  | cons operation rest ih =>
      have notInsert : ∀ fields, operation ≠ .insert fields := by
        intro fields same
        exact noInsert fields (same ▸ List.mem_cons_self)
      have restNoInsert : ∀ fields, Operation.insert fields ∉ rest := by
        intro fields member
        exact noInsert fields (List.mem_cons_of_mem operation member)
      rw [run, List.foldl_cons, ← run, ih restNoInsert, conversions_after,
        ← recorded_conversions notInsert, recordings, List.map_append, List.append_assoc]

theorem recorded_fills {operation : Operation} {database : Database} {recording : Recording}
    (isRecorded : recording ∈ operation.recorded database) :
    ∃ scope goal, recording.occurrence.Fills scope goal recording.conversion := by
  cases operation with
  | service scope call => simp [recorded] at isRecorded
  | insert fields => simp [recorded] at isRecorded
  | evaluate settings trigger session visitor =>
      rw [recorded_evaluate] at isRecorded
      cases known : Occurrence.of? trigger session visitor with
      | none => simp [known] at isRecorded
      | some occurrence =>
          simp only [known, Matcher.newRows, List.mem_map] at isRecorded
          obtain ⟨row, isNew, rfl⟩ := isRecorded
          exact ⟨settings.scope, row.1, (Occurrence.newRows_fills isNew).2⟩

theorem keysUnique_after (operation : Operation) {database : Database}
    (unique : database.KeysUnique) : (operation.after database).KeysUnique := by
  cases operation with
  | service scope call =>
      have same := conversions_after (.service scope call) database
      rw [Database.KeysUnique, same, inserted, List.append_nil]
      exact unique
  | insert fields => exact Conversions.keysUnique_insert fields unique
  | evaluate settings trigger session visitor =>
      simp only [after, Matcher.after_evaluate, Matcher.newRows]
      cases Occurrence.of? trigger session visitor with
      | none => simpa using unique
      | some occurrence => exact occurrence.keysUnique_newRows _ _ unique

theorem regular_after (operation : Operation) {database : Database} (regular : database.Regular) :
    (operation.after database).Regular := by
  refine ⟨?_, operation.keysUnique_after regular.keysUnique⟩
  cases operation with
  | service scope call =>
      exact call.after_related (fun _ _ => Database.keepsIdsDistinct_addGoal)
        Database.keepsIdsDistinct_replaceGoal (fun _ => Database.keepsIdsDistinct_removeGoal)
        scope database regular.idsDistinct
  | insert fields =>
      simp only [after, Conversions.after_insert]
      exact regular.idsDistinct
  | evaluate settings trigger session visitor =>
      simp only [after, Matcher.after_evaluate]
      exact regular.idsDistinct

theorem regular_run (operations : List Operation) {database : Database}
    (regular : database.Regular) : (run operations database).Regular := by
  induction operations generalizing database with
  | nil => exact regular
  | cons operation rest ih => exact ih (operation.regular_after regular)

end Operation

end ConversionTracking
