import ConversionTracking.Proofs.Store.Definitions
import ConversionTracking.Proofs.Store.Sorted
import ConversionTracking.Web.Respond

/-!
What is seen of the goals from within a scope. Every way to look goals up shows the same goals, those
within the scope: one by its id or its name, all of them, the active ones, and those that are sent in
answer to a request.
-/

namespace ConversionTracking

namespace Goal

theorem StoresValid.exists_body {goal : Goal} (valid : goal.StoresValid) :
    ∃ body, goal.body? = some body := by
  obtain ⟨given, wellFormed, _, stores⟩ := valid
  obtain ⟨conditions, _, areConditions, _⟩ := stores.conditions.of_toValue wellFormed.conditions
  obtain ⟨steps, areSteps, _⟩ := exists_steps wellFormed.steps stores.funnelSteps
  unfold body?
  rw [areConditions, areSteps]
  cases steps with
  | none => exact ⟨_, rfl⟩
  | some steps =>
      have areMaps : (steps.map Fields.toValue).all Value.isMap = true := by
        rw [List.all_eq_true, List.forall_mem_map]
        exact fun step _ => rfl
      exact ⟨_, if_pos (Bool.and_eq_true_iff.mpr ⟨rfl, areMaps⟩)⟩

theorem exists_bodies {goals : List Goal} (valid : ∀ goal ∈ goals, goal.StoresValid) :
    ∃ bodies, goals.mapM body? = some bodies := by
  induction goals with
  | nil => exact ⟨[], rfl⟩
  | cons goal rest ih =>
      obtain ⟨firstValid, restValid⟩ := List.forall_mem_cons.mp valid
      obtain ⟨body, isBody⟩ := firstValid.exists_body
      obtain ⟨bodies, areBodies⟩ := ih restValid
      exact ⟨body :: bodies, by simp [isBody, areBodies]⟩

def isOfType (goalType : Option String) (goal : Goal) : Bool :=
  goalType.isNone || goalType == some goal.goalType

end Goal

namespace Database

structure Lists (database : Database) (scope : Scope) (goals : List Goal) : Prop where
  exactly : goals.Perm (database.goals.filter fun goal => decide (goal.IsWithin scope))
  sorted : goals.Pairwise Goal.Precedes

section

variable {database : Database} {scope : Scope}

theorem Lists.mem_iff {all : List Goal} (lists : database.Lists scope all) (goal : Goal) :
    goal ∈ all ↔ goal ∈ database.goals ∧ goal.IsWithin scope := by
  rw [lists.exactly.mem_iff, List.mem_filter, decide_eq_true_eq]

theorem lists_goalsByName (distinct : database.GoalIdsDistinct) (scope : Scope) :
    database.Lists scope (goalsByName (database.visibleGoals scope)) := by
  refine ⟨(List.mergeSort_perm _ _).trans (List.Perm.of_eq ?_),
    goalsByName_sorted (goalIds_visible distinct scope)⟩
  apply List.filter_congr
  intro goal _
  rw [Bool.eq_iff_iff, goal.isVisible_iff, decide_eq_true_eq]

variable (fits : scope.FitsWord)

include fits

theorem allGoals_of_fits (database : Database) :
    database.allGoals scope = .ok (goalsByName (database.visibleGoals scope)) := by
  rw [allGoals, Scope.check_of_fits fits]
  rfl

variable (distinct : database.GoalIdsDistinct)

include distinct

theorem exists_findGoal {all : List Goal} (lists : database.Lists scope all) {id : Int}
    (isWord : IsWord id) :
    ∃ found, database.findGoal scope id = .ok found ∧
      ∀ goal, found = some goal ↔ goal ∈ all ∧ goal.id = id := by
  refine ⟨_, findGoal_of_fits fits isWord, fun goal => ?_⟩
  rw [lists.mem_iff, ← mem_visibleGoals_iff]
  constructor
  · intro found
    have hasId := List.find?_some found
    exact ⟨List.mem_of_find?_eq_some found, beq_iff_eq.mp hasId⟩
  · rintro ⟨isVisible, rfl⟩
    cases found : (database.visibleGoals scope).find? (·.id == goal.id) with
    | none => simpa using List.find?_eq_none.mp found goal isVisible
    | some other =>
        have sameId := List.find?_some found
        rw [List.inj_on_of_nodup_map (goalIds_visible distinct scope)
          (List.mem_of_find?_eq_some found) isVisible (beq_iff_eq.mp sameId)]

theorem exists_findGoalByName {all : List Goal} (lists : database.Lists scope all) (name : String) :
    ∃ found, database.findGoalByName scope name = .ok found ∧
      ∀ goal, found = some goal ↔ (goal ∈ all ∧ goal.name = name) ∧
        ∀ other ∈ all, other.name = name → goal.id ≤ other.id := by
  refine ⟨_, findGoalByName_of_fits fits, fun goal => ?_⟩
  rw [goalNamed_eq_some_iff distinct]
  simp only [lists.mem_iff, and_imp, and_assoc]

theorem activeGoals_of_fits (goalType : Option String) :
    database.activeGoals scope goalType =
      .ok ((goalsByName (database.visibleGoals scope)).filter fun goal =>
        goal.isActive && goal.isOfType goalType) := by
  rw [activeGoals, Scope.check_of_fits fits, ← goalsByName_filter (goalIds_visible distinct scope)]
  rfl

theorem exists_activeGoalsOfType {all : List Goal} (lists : database.Lists scope all)
    (goalType : String) :
    ∃ byId, database.activeGoalsOfType scope goalType = .ok byId ∧
      byId.Perm (all.filter fun goal => goal.isActive && goal.goalType == goalType) ∧
      byId.Pairwise fun left right => left.id < right.id := by
  have ids := goalIds_visible distinct scope
  have visible : all.Perm (database.visibleGoals scope) :=
    lists.exactly.trans (lists_goalsByName distinct scope).exactly.symm |>.trans
      (List.mergeSort_perm _ _)
  refine ⟨goalsById ((database.visibleGoals scope).filter fun goal =>
    goal.isActive && goal.goalType == goalType), ?_, ?_, ?_⟩
  · rw [activeGoalsOfType, Scope.check_of_fits fits]
    rfl
  · exact (List.mergeSort_perm _ _).trans (visible.symm.filter _)
  · exact goalsById_sorted (ids.sublist (List.filter_sublist.map _))

end

end Database

namespace Respond

variable {database : Database} {scope : Scope} (fits : scope.FitsWord)
  (distinct : database.GoalIdsDistinct) (valid : database.StoresValid)

include fits distinct valid

theorem result_goals (active : Bool) (goalType : Option String) :
    let ofType := (Database.goalsByName (database.visibleGoals scope)).filter (·.isOfType goalType)
    ∃ bodies,
      (if active then ofType.filter (·.isActive) else ofType).mapM Goal.body? = some bodies ∧
        (goals scope active goalType).result database = .ok (.ok (.list bodies)) := by
  intro ofType
  have areValid : ∀ goal ∈ if active then ofType.filter (·.isActive) else ofType,
      goal.StoresValid := by
    intro goal isListed
    have isVisible : goal ∈ Database.goalsByName (database.visibleGoals scope) := by
      split at isListed
      · exact List.mem_of_mem_filter (List.mem_of_mem_filter isListed)
      · exact List.mem_of_mem_filter isListed
    exact valid goal (((Database.lists_goalsByName distinct scope).mem_iff goal).mp isVisible).1
  obtain ⟨bodies, areBodies⟩ := Goal.exists_bodies areValid
  refine ⟨bodies, areBodies, ?_⟩
  unfold goals
  cases active with
  | true =>
      rw [if_pos rfl, List.filter_filter] at areBodies
      rw [if_pos rfl, Work.result_bind, Work.result_read,
        Database.activeGoals_of_fits fits distinct]
      dsimp only
      rw [areBodies]
      rfl
  | false =>
      rw [if_neg Bool.false_ne_true] at areBodies
      rw [if_neg Bool.false_ne_true, Work.result_bind, Work.result_read,
        Database.allGoals_of_fits fits]
      dsimp only
      rw [Work.result_bind, Work.result_pure]
      dsimp only
      have listed : ((Database.goalsByName (database.visibleGoals scope)).filter fun goal =>
        goalType.isNone || goalType == some goal.goalType).mapM Goal.body? = some bodies := areBodies
      rw [listed]
      rfl

theorem result_respond_goals (clock : Instant) {request : Request} (isGet : request.method = "GET")
    (isGoals : Route.ofPath? request.path = some .goals) (isScope : request.scope = .valid scope)
    {active : Bool} (isActive : request.active = .valid active) :
    (respond clock request).result database =
      (goals scope active (request.parameter? "type")).result database := by
  have routed : (route clock request .goals).result database =
      (goals scope active (request.parameter? "type")).result database := by
    rw [route, isScope, isActive]
    rfl
  obtain ⟨bodies, _, sent⟩ :=
    result_goals fits distinct valid active (request.parameter? "type")
  have isNotHead : ¬request.method = "HEAD" := by
    rw [isGet]
    decide
  rw [respond, if_neg isNotHead, isGoals]
  dsimp only
  rw [if_pos isGet, Work.result_recover, routed, sent]

end Respond

/-- All that is seen of the goals from within a scope, by ids that fit, by names, by activity and by
type, are the goals within the scope. They are sent alike, whichever way they are looked up. -/
theorem lookups_agree (ids : IdDraw) (operations : List Operation) {scope : Scope}
    (fits : scope.FitsWord) :
    let database := Operation.run operations (.empty ids)
    ∃ all, database.allGoals scope = .ok all ∧ database.Lists scope all ∧
      (∀ id, IsWord id →
        (∃ found, database.findGoal scope id = .ok found ∧
          ∀ goal, found = some goal ↔ goal ∈ all ∧ goal.id = id) ∧
        ∀ goal, (Goals.get scope id).result database = .ok goal ↔ goal ∈ all ∧ goal.id = id) ∧
      (∀ name, ∃ found, database.findGoalByName scope name = .ok found ∧
        ∀ goal, found = some goal ↔ (goal ∈ all ∧ goal.name = name) ∧
          ∀ other ∈ all, other.name = name → goal.id ≤ other.id) ∧
      (∀ goalType, database.activeGoals scope goalType =
        .ok (all.filter fun goal => goal.isActive && goal.isOfType goalType)) ∧
      (∀ goalType, ∃ byId, database.activeGoalsOfType scope goalType = .ok byId ∧
        byId.Perm (all.filter fun goal => goal.isActive && goal.goalType == goalType) ∧
        byId.Pairwise fun left right => left.id < right.id) ∧
      ∀ clock request active, request.method = "GET" → Route.ofPath? request.path = some .goals →
        request.scope = .valid scope → request.active = .valid active →
        let ofType := all.filter (·.isOfType (request.parameter? "type"))
        ∃ bodies,
          (if active then ofType.filter (·.isActive) else ofType).mapM Goal.body? = some bodies ∧
            (Respond.respond clock request).result database = .ok (.ok (.list bodies)) := by
  intro database
  have valid := Operation.storesValid_run operations (Database.storesValid_empty ids)
  have distinct := (Operation.regular_run operations (Database.regular_empty ids)).idsDistinct
  have lists := Database.lists_goalsByName distinct scope
  refine ⟨_, Database.allGoals_of_fits fits database, lists, fun id isWord => ?_,
    Database.exists_findGoalByName fits distinct lists, Database.activeGoals_of_fits fits distinct,
    Database.exists_activeGoalsOfType fits distinct lists, ?_⟩
  · obtain ⟨found, isFound, found_iff⟩ := Database.exists_findGoal fits distinct lists isWord
    refine ⟨⟨found, isFound, found_iff⟩, fun goal => ?_⟩
    rw [← found_iff, Goals.get, Work.result_bind, Work.result_read, isFound]
    cases found with
    | none => simp
    | some other => simp
  · intro clock request active isGet isGoals isScope isActive
    rw [Respond.result_respond_goals fits distinct valid clock isGet isGoals isScope isActive]
    exact Respond.result_goals fits distinct valid active (request.parameter? "type")

def signupsOfSites : List Operation :=
  [Operation.createSignup, .service ⟨some 1, none⟩ (.create Operation.signupAttributes)]

def activeOfSiteTwo : Request := ⟨"GET", "/goals", [("site_id", "2"), ("active", "true")]⟩

theorem unplaced_signup_seen :
    let database := Operation.run signupsOfSites .empty
    ∃ all bodies, database.allGoals ⟨some 2, none⟩ = .ok all ∧ all.map (·.id) = [1] ∧
      (all.filter (·.isActive)).mapM Goal.body? = some bodies ∧
      (Respond.respond default activeOfSiteTwo).result database = .ok (.ok (.list bodies)) := by
  intro database
  have fits : Scope.FitsWord ⟨some 2, none⟩ := by
    intro site isSite
    obtain rfl := Option.some.inj isSite
    decide
  obtain ⟨all, isAll, lists, _, _, _, _, sent⟩ := lookups_agree .lowest signupsOfSites fits
  obtain ⟨bodies, areBodies, answered⟩ :=
    sent default activeOfSiteTwo true rfl (by decide +kernel) (by rfl) (by rfl)
  have seen : (database.goals.filter fun goal =>
      decide (goal.IsWithin ⟨some 2, none⟩)).map (·.id) = [1] := by
    decide +kernel
  have ofAnyType : all.filter (·.isOfType (activeOfSiteTwo.parameter? "type")) = all := by
    rw [List.filter_eq_self]
    exact fun _ _ => rfl
  rw [if_pos rfl, ofAnyType] at areBodies
  exact ⟨all, bodies, isAll, List.perm_singleton.mp (seen ▸ lists.exactly.map (·.id)), areBodies,
    answered⟩

end ConversionTracking
