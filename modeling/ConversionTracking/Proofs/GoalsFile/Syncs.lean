import ConversionTracking.Proofs.GoalsFile.Placing
import ConversionTracking.Proofs.Store.Definitions
import ConversionTracking.Proofs.Store.Sorted

/-!
What bringing definitions into the database does, one definition after another: a goal is created for
a name under which the scope sees none, and otherwise the first goal of the name is revised. A goal
under a name goes through the definitions of the name alone.
-/

namespace ConversionTracking

namespace Goal

structure KeepsPlace (stored changed : Goal) : Prop where
  id : changed.id = stored.id
  name : changed.name = stored.name
  siteId : changed.siteId = stored.siteId
  tenantId : changed.tenantId = stored.tenantId

variable {stored changed : Goal}

theorem KeepsPlace.isWithin_iff (kept : stored.KeepsPlace changed) (scope : Scope) :
    changed.IsWithin scope ↔ stored.IsWithin scope := by
  rw [← isVisible_iff, ← isVisible_iff, isVisible, isVisible, kept.siteId, kept.tenantId]

theorem keepsPlace_of_revised {definition : GoalDefinition} (sameName : stored.name = definition.name)
    (made : stored.revised (definition.inPlaceOf stored) = .ok changed) :
    stored.KeepsPlace changed := by
  obtain ⟨_, _, made⟩ := Except.bind_eq_ok_iff.mp made
  obtain ⟨_, _, made⟩ := Except.bind_eq_ok_iff.mp made
  obtain ⟨_, rfl⟩ := (ofParts_eq_ok_iff _ _ _ _ _).mp made
  exact ⟨rfl, sameName.symm, rfl, rfl⟩

def reviseAll (goal : Goal) (definitions : List GoalDefinition) : Except Fault Goal :=
  definitions.foldlM (fun goal definition => goal.revised (definition.inPlaceOf goal)) goal

@[simp] theorem reviseAll_nil (goal : Goal) : goal.reviseAll [] = .ok goal := rfl

theorem reviseAll_cons (goal : Goal) (definition : GoalDefinition) (rest : List GoalDefinition) :
    goal.reviseAll (definition :: rest) =
      goal.revised (definition.inPlaceOf goal) >>= fun changed => changed.reviseAll rest :=
  List.foldlM_cons

theorem reviseAll_append (goal : Goal) (first later : List GoalDefinition) :
    goal.reviseAll (first ++ later) =
      goal.reviseAll first >>= fun changed => changed.reviseAll later :=
  List.foldlM_append

theorem KeepsPlace.trans {last : Goal} (first : stored.KeepsPlace changed)
    (second : changed.KeepsPlace last) : stored.KeepsPlace last :=
  ⟨second.id.trans first.id, second.name.trans first.name, second.siteId.trans first.siteId,
    second.tenantId.trans first.tenantId⟩

theorem keepsPlace_of_reviseAll {definitions : List GoalDefinition}
    (sameName : ∀ definition ∈ definitions, definition.name = stored.name)
    (made : stored.reviseAll definitions = .ok changed) : stored.KeepsPlace changed := by
  induction definitions generalizing stored with
  | nil =>
      obtain rfl := Except.ok.inj made
      exact ⟨rfl, rfl, rfl, rfl⟩
  | cons definition rest ih =>
      obtain ⟨firstName, restNames⟩ := List.forall_mem_cons.mp sameName
      rw [reviseAll_cons] at made
      obtain ⟨between, first, others⟩ := Except.bind_eq_ok_iff.mp made
      have kept := keepsPlace_of_revised firstName.symm first
      refine kept.trans (ih (fun other member => ?_) others)
      exact (restNames other member).trans kept.name.symm

end Goal

namespace Database

variable {database : Database} {scope : Scope}

theorem goalNamed_addGoal (distinct : database.GoalIdsDistinct) {goal : Goal}
    (isNext : goal.id = database.nextId database.goalIds)
    (unnamed : database.goalNamed scope goal.name = none) (name : String) :
    (database.addGoal goal).goalNamed scope name =
      (database.goalNamed scope name).or
        (if goal.IsWithin scope ∧ goal.name = name then some goal else none) := by
  have stillDistinct := keepsIdsDistinct_addGoal isNext distinct
  have mem_iff (other : Goal) : other ∈ (database.addGoal goal).goals ↔
      other ∈ database.goals ∨ other = goal := by
    simp [addGoal]
  cases named : database.goalNamed scope name with
  | some stored =>
      obtain ⟨⟨held, within, hasName⟩, least⟩ := (goalNamed_eq_some_iff distinct).mp named
      refine (goalNamed_eq_some_iff stillDistinct).mpr
        ⟨⟨(mem_iff stored).mpr (Or.inl held), within, hasName⟩, fun other isOther => ?_⟩
      rcases (mem_iff other).mp isOther with isOld | rfl
      · exact least other isOld
      · rintro _ rfl
        exact absurd (named.symm.trans unnamed) (by simp)
  | none =>
      have unnamed := goalNamed_eq_none_iff.mp named
      rw [Option.none_or]
      split
      · rename_i isNamed
        refine (goalNamed_eq_some_iff stillDistinct).mpr
          ⟨⟨(mem_iff goal).mpr (Or.inr rfl), isNamed⟩, fun other isOther within hasName => ?_⟩
        rcases (mem_iff other).mp isOther with isOld | rfl
        · exact absurd hasName (unnamed other isOld within)
        · exact Int.le_refl _
      · rename_i notNamed
        refine goalNamed_eq_none_iff.mpr fun other isOther within hasName => ?_
        rcases (mem_iff other).mp isOther with isOld | rfl
        · exact unnamed other isOld within hasName
        · exact notNamed ⟨within, hasName⟩

theorem goalNamed_replaceGoal (distinct : database.GoalIdsDistinct) {stored changed : Goal}
    (held : stored ∈ database.goals) (kept : stored.KeepsPlace changed) (name : String) :
    (database.replaceGoal changed).goalNamed scope name =
      (database.goalNamed scope name).map
        fun goal => if goal.id = changed.id then changed else goal := by
  have stillDistinct := keepsIdsDistinct_replaceGoal database changed distinct
  have keeps : ∀ goal ∈ database.goals,
      goal.KeepsPlace (if goal.id = changed.id then changed else goal) := by
    intro goal isGoal
    split
    · rename_i same
      obtain rfl := List.inj_on_of_nodup_map distinct isGoal held (same.trans kept.id)
      exact kept
    · exact ⟨rfl, rfl, rfl, rfl⟩
  cases named : database.goalNamed scope name with
  | some goal =>
      obtain ⟨⟨isGoal, within, hasName⟩, least⟩ := (goalNamed_eq_some_iff distinct).mp named
      have keepsGoal := keeps goal isGoal
      refine (goalNamed_eq_some_iff stillDistinct).mpr ⟨⟨List.mem_map_of_mem isGoal,
        (keepsGoal.isWithin_iff scope).mpr within, keepsGoal.name.trans hasName⟩, ?_⟩
      intro other isOther otherWithin otherName
      obtain ⟨old, isOld, rfl⟩ := List.mem_map.mp isOther
      have keepsOld := keeps old isOld
      rw [keepsGoal.id, keepsOld.id]
      exact least old isOld ((keepsOld.isWithin_iff scope).mp otherWithin)
        (keepsOld.name.symm.trans otherName)
  | none =>
      refine goalNamed_eq_none_iff.mpr fun other isOther within hasName => ?_
      obtain ⟨old, isOld, rfl⟩ := List.mem_map.mp isOther
      have keepsOld := keeps old isOld
      exact goalNamed_eq_none_iff.mp named old isOld ((keepsOld.isWithin_iff scope).mp within)
        (keepsOld.name.symm.trans hasName)

end Database

namespace SyncCounts

def plus (counts others : SyncCounts) : SyncCounts :=
  ⟨counts.created + others.created, counts.updated + others.updated⟩

theorem zero_plus (counts : SyncCounts) : (⟨0, 0⟩ : SyncCounts).plus counts = counts := by
  simp only [plus, Nat.zero_add]

theorem plus_assoc (first second third : SyncCounts) :
    (first.plus second).plus third = first.plus (second.plus third) := by
  simp only [plus, Nat.add_assoc]

end SyncCounts

namespace GoalsFile

/-- What one definition does to the database, and whether it creates a goal or updates one. -/
inductive SyncStep (scope : Scope) (definition : GoalDefinition) (database : Database) :
    Database → SyncCounts → Prop where
  | created {goal : Goal} (unnamed : database.goalNamed scope definition.name = none)
      (made : Goal.ofDefinition (database.nextId database.goalIds) (definition.placedIn scope) =
        .ok goal) :
      SyncStep scope definition database (database.addGoal goal) ⟨1, 0⟩
  | revised {stored changed : Goal}
      (named : database.goalNamed scope definition.name = some stored)
      (made : stored.revised (definition.inPlaceOf stored) = .ok changed) :
      SyncStep scope definition database (database.replaceGoal changed) ⟨0, 1⟩

inductive Syncs (scope : Scope) :
    List GoalDefinition → Database → Database → SyncCounts → Prop where
  | nil (database : Database) : Syncs scope [] database database ⟨0, 0⟩
  | cons {definition : GoalDefinition} {rest : List GoalDefinition}
      {database between after : Database} {first others : SyncCounts}
      (step : SyncStep scope definition database between first)
      (later : Syncs scope rest between after others) :
      Syncs scope (definition :: rest) database after (first.plus others)

section

variable {scope : Scope} (fits : scope.FitsWord) {definition : GoalDefinition} {database : Database}

include fits

theorem syncOne_of_unnamed (unnamed : database.goalNamed scope definition.name = none)
    (counts : SyncCounts) :
    (syncOne scope counts definition).result database =
        ((Goals.create scope (givenFields definition)).result database).map
          (fun _ => { counts with created := counts.created + 1 }) ∧
      (syncOne scope counts definition).after database =
        (Goals.create scope (givenFields definition)).after database := by
  have found := (Database.findGoalByName_of_fits fits).trans (congrArg Except.ok unnamed)
  unfold syncOne
  rw [Work.result_bind, Work.after_bind, Work.result_read, Work.after_read, found]
  dsimp only
  rw [Work.result_bind, Work.after_bind]
  cases (Goals.create scope (givenFields definition)).result database <;> exact ⟨rfl, rfl⟩

theorem syncOne_of_named {stored : Goal}
    (named : database.goalNamed scope definition.name = some stored) (counts : SyncCounts) :
    (syncOne scope counts definition).result database =
        ((Goals.updateGoal stored (unscopedFields definition)).result database).map
          (fun _ => { counts with updated := counts.updated + 1 }) ∧
      (syncOne scope counts definition).after database =
        (Goals.updateGoal stored (unscopedFields definition)).after database := by
  have found := (Database.findGoalByName_of_fits fits).trans (congrArg Except.ok named)
  unfold syncOne
  rw [Work.result_bind, Work.after_bind, Work.result_read, Work.after_read, found]
  dsimp only
  rw [Work.result_bind, Work.after_bind, Goals.result_update, Goals.after_update,
    Goals.result_resolve_goal]
  dsimp only
  cases (Goals.updateGoal stored (unscopedFields definition)).result database <;> exact ⟨rfl, rfl⟩

end

section

variable {scope : Scope} {definition : GoalDefinition} (wellFormed : definition.IsWellFormed)

include wellFormed

theorem result_create_eq_ok_iff (database : Database) (goal : Goal) :
    (Goals.create scope (givenFields definition)).result database = .ok goal ↔
      definition.IsConsistent ∧ Goal.ofDefinition (database.nextId database.goalIds)
        (definition.placedIn scope) = .ok goal := by
  have bound := Goals.result_create scope database (givenFields definition)
  change _ = (_ >>= _) at bound
  rw [bound, Except.bind_eq_ok_iff]
  simp only [validate_scopedAttributes_iff wellFormed]
  constructor
  · rintro ⟨_, ⟨rfl, consistent⟩, made⟩
    exact ⟨consistent, made⟩
  · rintro ⟨consistent, made⟩
    exact ⟨_, ⟨rfl, consistent⟩, made⟩

theorem result_updateGoal_eq_ok_iff (database : Database) (stored changed : Goal) :
    (Goals.updateGoal stored (unscopedFields definition)).result database = .ok changed ↔
      definition.IsConsistent ∧ stored.revised (definition.inPlaceOf stored) = .ok changed := by
  have bound := Goals.result_updateGoal database stored (unscopedFields definition)
  change _ = (_ >>= _) at bound
  rw [bound, Except.bind_eq_ok_iff]
  simp only [validate_unscopedFields_iff wellFormed]
  constructor
  · rintro ⟨_, ⟨rfl, consistent⟩, made⟩
    exact ⟨consistent, made⟩
  · rintro ⟨consistent, made⟩
    exact ⟨_, ⟨rfl, consistent⟩, made⟩

end

theorem syncOne_eq_ok_iff {scope : Scope} (fits : scope.FitsWord) {definition : GoalDefinition}
    (wellFormed : definition.IsWellFormed) (counts counted : SyncCounts)
    (database after : Database) :
    (syncOne scope counts definition).result database = .ok counted ∧
        (syncOne scope counts definition).after database = after ↔
      definition.IsConsistent ∧
        ∃ made, SyncStep scope definition database after made ∧ counted = counts.plus made := by
  cases named : database.goalNamed scope definition.name with
  | none =>
      obtain ⟨result, isAfter⟩ := syncOne_of_unnamed fits named counts
      have creates (goal : Goal) :
          (Goals.create scope (givenFields definition)).result database = .ok goal ↔ _ :=
        result_create_eq_ok_iff wellFormed database goal
      rw [result, isAfter, Goals.after_create]
      constructor
      · rintro ⟨synced, left⟩
        cases created : (Goals.create scope (givenFields definition)).result database with
        | error fault =>
            rw [created] at synced
            contradiction
        | ok goal =>
            rw [created] at synced left
            obtain ⟨consistent, made⟩ := (creates goal).mp created
            obtain rfl := Except.ok.inj synced
            obtain rfl : database.addGoal goal = after := left
            exact ⟨consistent, _, .created named made, rfl⟩
      · rintro ⟨consistent, _, step, rfl⟩
        cases step with
        | created _ made =>
            rw [(creates _).mpr ⟨consistent, made⟩]
            exact ⟨rfl, rfl⟩
        | revised isNamed _ =>
            rw [named] at isNamed
            contradiction
  | some stored =>
      obtain ⟨result, isAfter⟩ := syncOne_of_named fits named counts
      have updates := result_updateGoal_eq_ok_iff wellFormed database stored
      rw [result, isAfter, Goals.after_updateGoal]
      constructor
      · rintro ⟨synced, left⟩
        cases updated : (Goals.updateGoal stored (unscopedFields definition)).result database with
        | error fault =>
            rw [updated] at synced
            contradiction
        | ok changed =>
            rw [updated] at synced left
            obtain ⟨consistent, made⟩ := (updates changed).mp updated
            obtain rfl := Except.ok.inj synced
            obtain rfl : database.replaceGoal changed = after := left
            exact ⟨consistent, _, .revised named made, rfl⟩
      · rintro ⟨consistent, _, step, rfl⟩
        cases step with
        | created isUnnamed _ =>
            rw [named] at isUnnamed
            contradiction
        | revised isNamed made =>
            obtain rfl := Option.some.inj (named.symm.trans isNamed)
            rw [(updates _).mpr ⟨consistent, made⟩]
            exact ⟨rfl, rfl⟩

theorem sync_eq_ok_iff {scope : Scope} (fits : scope.FitsWord) {definitions : List GoalDefinition}
    (wellFormed : ∀ definition ∈ definitions, definition.IsWellFormed) (counts counted : SyncCounts)
    (database after : Database) :
    (sync scope counts definitions).result database = .ok counted ∧
        (sync scope counts definitions).after database = after ↔
      (∀ definition ∈ definitions, definition.IsConsistent) ∧
        ∃ made, Syncs scope definitions database after made ∧ counted = counts.plus made := by
  induction definitions generalizing counts database with
  | nil =>
      constructor
      · rintro ⟨result, rfl⟩
        obtain rfl := Except.ok.inj result
        exact ⟨List.forall_mem_nil _, _, .nil database, rfl⟩
      · rintro ⟨_, _, ⟨_⟩, rfl⟩
        exact ⟨rfl, rfl⟩
  | cons definition rest ih =>
      obtain ⟨firstFormed, restFormed⟩ := List.forall_mem_cons.mp wellFormed
      have first := syncOne_eq_ok_iff fits firstFormed counts
      rw [sync, Work.result_bind, Work.after_bind, List.forall_mem_cons]
      constructor
      · rintro ⟨synced, left⟩
        cases counting : (syncOne scope counts definition).result database with
        | error fault =>
            rw [counting] at synced
            contradiction
        | ok counted =>
            rw [counting] at synced left
            obtain ⟨consistent, made, step, rfl⟩ := (first counted database _).mp ⟨counting, rfl⟩
            obtain ⟨restConsistent, others, later, rfl⟩ :=
              (ih restFormed _ _).mp ⟨synced, left⟩
            exact ⟨⟨consistent, restConsistent⟩, _, .cons step later,
              counts.plus_assoc made others⟩
      · rintro ⟨⟨consistent, restConsistent⟩, _, ⟨⟩ | ⟨step, later⟩, rfl⟩
        obtain ⟨counting, between⟩ :=
          (first _ database _).mpr ⟨consistent, _, step, rfl⟩
        rw [counting, between]
        exact (ih restFormed _ _).mpr
          ⟨restConsistent, _, later, (counts.plus_assoc _ _).symm⟩

def ofName (name : String) (definitions : List GoalDefinition) : List GoalDefinition :=
  definitions.filter (·.name == name)

theorem ofName_cons (name : String) (definition : GoalDefinition) (rest : List GoalDefinition) :
    ofName name (definition :: rest) =
      if definition.name = name then definition :: ofName name rest else ofName name rest := by
  simp only [ofName, List.filter_cons, beq_iff_eq]

theorem mem_ofName_iff {name : String} {definitions : List GoalDefinition}
    {definition : GoalDefinition} :
    definition ∈ ofName name definitions ↔ definition ∈ definitions ∧ definition.name = name := by
  rw [ofName, List.mem_filter, beq_iff_eq]

section

variable {scope : Scope} {definition : GoalDefinition} {definitions : List GoalDefinition}
  {database after : Database} {made : SyncCounts}

theorem SyncStep.idsDistinct (step : SyncStep scope definition database after made)
    (distinct : database.GoalIdsDistinct) : after.GoalIdsDistinct := by
  cases step with
  | created _ made =>
      exact Database.keepsIdsDistinct_addGoal (Goal.id_of_ofDefinition made) distinct
  | revised _ _ => exact Database.keepsIdsDistinct_replaceGoal _ _ distinct

theorem Syncs.idsDistinct (syncs : Syncs scope definitions database after made)
    (distinct : database.GoalIdsDistinct) : after.GoalIdsDistinct := by
  induction syncs with
  | nil => exact distinct
  | cons step _ ih => exact ih (step.idsDistinct distinct)

theorem SyncStep.total (step : SyncStep scope definition database after made) :
    made.created + made.updated = 1 := by
  cases step <;> rfl

theorem Syncs.total (syncs : Syncs scope definitions database after made) :
    made.created + made.updated = definitions.length := by
  induction syncs with
  | nil => rfl
  | cons step _ ih =>
      have first := step.total
      simp only [SyncCounts.plus, List.length_cons]
      omega

theorem SyncStep.goalIds (step : SyncStep scope definition database after made) :
    ∃ ids, after.goalIds = database.goalIds ++ ids ∧ ids.length = made.created := by
  cases step with
  | created _ _ => exact ⟨_, Database.goalIds_addGoal _ _, rfl⟩
  | revised _ _ => exact ⟨[], by rw [Database.goalIds_replaceGoal, List.append_nil], rfl⟩

theorem Syncs.goalIds (syncs : Syncs scope definitions database after made) :
    ∃ ids, after.goalIds = database.goalIds ++ ids ∧ ids.length = made.created := by
  induction syncs with
  | nil database => exact ⟨[], (List.append_nil _).symm, rfl⟩
  | cons step _ ih =>
      obtain ⟨first, afterFirst, isFirst⟩ := step.goalIds
      obtain ⟨others, afterOthers, areOthers⟩ := ih
      refine ⟨first ++ others, ?_, ?_⟩
      · rw [afterOthers, afterFirst, List.append_assoc]
      · rw [List.length_append, isFirst, areOthers]
        rfl

end

section

variable {scope : Scope} {definition : GoalDefinition} {definitions : List GoalDefinition}
  {database after : Database} {made : SyncCounts} (distinct : database.GoalIdsDistinct)

include distinct

theorem SyncStep.goalNamed_of_ne (step : SyncStep scope definition database after made)
    {name : String} (differ : definition.name ≠ name) :
    after.goalNamed scope name = database.goalNamed scope name := by
  cases step with
  | @created goal unnamed made =>
      have isNamed : goal.name = definition.name := (Goal.stores_of_ofDefinition made).name
      rw [Database.goalNamed_addGoal distinct (Goal.id_of_ofDefinition made) (isNamed ▸ unnamed),
        if_neg fun both => differ (isNamed.symm.trans both.2), Option.or_none]
  | revised named made =>
      obtain ⟨held, isNamed⟩ := Database.mem_of_goalNamed named
      have kept := Goal.keepsPlace_of_revised isNamed made
      rw [Database.goalNamed_replaceGoal distinct held kept]
      cases found : database.goalNamed scope name with
      | none => rfl
      | some other =>
          obtain ⟨isOther, otherName⟩ := Database.mem_of_goalNamed found
          refine congrArg some (if_neg fun same => differ ?_)
          obtain rfl := List.inj_on_of_nodup_map distinct isOther held (same.trans kept.id)
          exact isNamed.symm.trans otherName

theorem SyncStep.goalNamed_of_some (step : SyncStep scope definition database after made)
    {stored : Goal} (named : database.goalNamed scope definition.name = some stored) :
    ∃ changed, stored.revised (definition.inPlaceOf stored) = .ok changed ∧
      after.goalNamed scope definition.name = some changed := by
  cases step with
  | created unnamed _ =>
      rw [named] at unnamed
      contradiction
  | @revised _ changed isNamed made =>
      obtain rfl := Option.some.inj (named.symm.trans isNamed)
      obtain ⟨held, hasName⟩ := Database.mem_of_goalNamed named
      have kept := Goal.keepsPlace_of_revised hasName made
      refine ⟨changed, made, ?_⟩
      rw [Database.goalNamed_replaceGoal distinct held kept, named]
      exact congrArg some (if_pos kept.id.symm)

theorem SyncStep.goalNamed_of_none (step : SyncStep scope definition database after made)
    (unnamed : database.goalNamed scope definition.name = none) :
    ∃ goal, Goal.ofDefinition (database.nextId database.goalIds) (definition.placedIn scope) =
        .ok goal ∧
      after.goalNamed scope definition.name =
        if definition.LiesIn scope then some goal else none := by
  cases step with
  | @created goal _ made =>
      have stores := Goal.stores_of_ofDefinition made
      have lies := Goal.isWithin_iff_liesIn stores.siteId stores.tenantId
      have isNamed : goal.name = definition.name := stores.name
      refine ⟨goal, made, ?_⟩
      rw [Database.goalNamed_addGoal distinct (Goal.id_of_ofDefinition made) (isNamed ▸ unnamed),
        unnamed, Option.none_or]
      simp only [lies, isNamed, and_true]
  | revised named _ =>
      rw [unnamed] at named
      contradiction

theorem Syncs.goalNamed_of_some (syncs : Syncs scope definitions database after made)
    {name : String} {stored : Goal} (named : database.goalNamed scope name = some stored) :
    ∃ changed, stored.reviseAll (ofName name definitions) = .ok changed ∧
      after.goalNamed scope name = some changed := by
  induction syncs generalizing stored with
  | nil => exact ⟨stored, rfl, named⟩
  | @cons definition rest database between after _ _ step _ ih =>
      have stillDistinct := step.idsDistinct distinct
      rw [ofName_cons]
      split
      · rename_i same
        subst same
        obtain ⟨changed, revises, isNamed⟩ := step.goalNamed_of_some distinct named
        obtain ⟨last, others, found⟩ := ih stillDistinct isNamed
        exact ⟨last, by rw [Goal.reviseAll_cons, revises]; exact others, found⟩
      · rename_i differ
        exact ih stillDistinct ((step.goalNamed_of_ne distinct differ).trans named)

theorem Syncs.goalNamed_of_none (syncs : Syncs scope definitions database after made)
    {name : String} (unnamed : database.goalNamed scope name = none) :
    (∀ definition ∈ ofName name definitions, ¬definition.LiesIn scope) ∧
        after.goalNamed scope name = none ∨
      ∃ outside first later id goal changed,
        ofName name definitions = outside ++ first :: later ∧
        (∀ definition ∈ outside, ¬definition.LiesIn scope ∧
          ∃ id goal, Goal.ofDefinition id (definition.placedIn scope) = .ok goal) ∧
        first.LiesIn scope ∧ Goal.ofDefinition id (first.placedIn scope) = .ok goal ∧
        goal.reviseAll later = .ok changed ∧ after.goalNamed scope name = some changed := by
  induction syncs with
  | nil => exact Or.inl ⟨List.forall_mem_nil _, unnamed⟩
  | @cons definition rest database between after _ _ step later ih =>
      have stillDistinct := step.idsDistinct distinct
      rw [ofName_cons]
      split
      · rename_i same
        subst same
        obtain ⟨goal, made, named⟩ := step.goalNamed_of_none distinct unnamed
        by_cases lies : definition.LiesIn scope
        · rw [if_pos lies] at named
          obtain ⟨changed, others, found⟩ := later.goalNamed_of_some stillDistinct named
          exact Or.inr ⟨[], definition, _, _, goal, changed, rfl, List.forall_mem_nil _, lies, made,
            others, found⟩
        · rw [if_neg lies] at named
          rcases ih stillDistinct named with ⟨areOutside, found⟩ |
            ⟨outside, first, others, id', goal', changed, split, areOutside, rest⟩
          · exact Or.inl ⟨List.forall_mem_cons.mpr ⟨lies, areOutside⟩, found⟩
          · refine Or.inr ⟨definition :: outside, first, others, id', goal', changed, ?_,
              List.forall_mem_cons.mpr ⟨⟨lies, _, goal, made⟩, areOutside⟩, rest⟩
            rw [split, List.cons_append]
      · rename_i differ
        exact ih stillDistinct ((step.goalNamed_of_ne distinct differ).trans unnamed)

theorem SyncStep.mem_of_not_named (step : SyncStep scope definition database after made) {goal : Goal}
    (held : goal ∈ database.goals)
    (notNamed : database.goalNamed scope definition.name ≠ some goal) : goal ∈ after.goals := by
  cases step with
  | created _ _ => exact List.mem_append_left _ held
  | revised named made =>
      obtain ⟨isStored, _⟩ := Database.mem_of_goalNamed named
      refine List.mem_map.mpr ⟨goal, held, if_neg fun same => notNamed ?_⟩
      rw [List.inj_on_of_nodup_map distinct held isStored (same.trans (Goal.id_of_revised made))]
      exact named

theorem SyncStep.goalNamed_before (step : SyncStep scope definition database after made)
    {name : String} {goal : Goal} (held : goal ∈ database.goals)
    (notNamed : database.goalNamed scope definition.name ≠ some goal)
    (isNamed : after.goalNamed scope name = some goal) :
    database.goalNamed scope name = some goal := by
  by_cases same : definition.name = name
  · subst same
    exfalso
    cases named : database.goalNamed scope definition.name with
    | none =>
        obtain ⟨created, made, isAfter⟩ := step.goalNamed_of_none distinct named
        rw [isAfter, Option.ite_none_right_eq_some] at isNamed
        obtain ⟨_, rfl⟩ := isNamed.imp id Option.some.inj
        have isOld := List.mem_map_of_mem (f := Goal.id) held
        rw [Goal.id_of_ofDefinition made] at isOld
        exact database.nextId_notMem _ isOld
    | some stored =>
        obtain ⟨changed, revises, isAfter⟩ := step.goalNamed_of_some distinct named
        obtain rfl := Option.some.inj (isAfter.symm.trans isNamed)
        obtain ⟨isStored, _⟩ := Database.mem_of_goalNamed named
        have sameGoal := List.inj_on_of_nodup_map distinct held isStored (Goal.id_of_revised revises)
        exact notNamed (named.trans (congrArg some sameGoal.symm))
  · rw [← step.goalNamed_of_ne distinct same]
    exact isNamed

theorem Syncs.mem_of_not_named (syncs : Syncs scope definitions database after made) {goal : Goal}
    (held : goal ∈ database.goals)
    (notNamed : ∀ definition ∈ definitions, database.goalNamed scope definition.name ≠ some goal) :
    goal ∈ after.goals := by
  induction syncs with
  | nil => exact held
  | cons step _ ih =>
      obtain ⟨notFirst, notRest⟩ := List.forall_mem_cons.mp notNamed
      refine ih (step.idsDistinct distinct) (step.mem_of_not_named distinct held notFirst) ?_
      intro other isOther isNamed
      exact notRest other isOther (step.goalNamed_before distinct held notFirst isNamed)

theorem SyncStep.mem_after (step : SyncStep scope definition database after made) {goal : Goal}
    (isLater : goal ∈ after.goals) :
    goal ∈ database.goals ∨ after.goalNamed scope definition.name = some goal ∨
      ¬goal.IsWithin scope := by
  cases step with
  | @created created unnamed made =>
      rcases List.mem_append.mp isLater with isOld | isNew
      · exact Or.inl isOld
      · obtain rfl := List.mem_singleton.mp isNew
        by_cases within : goal.IsWithin scope
        · have isNamed : goal.name = definition.name := (Goal.stores_of_ofDefinition made).name
          refine Or.inr (Or.inl ?_)
          rw [Database.goalNamed_addGoal distinct (Goal.id_of_ofDefinition made)
            (isNamed ▸ unnamed), unnamed, Option.none_or, if_pos ⟨within, isNamed⟩]
        · exact Or.inr (Or.inr within)
  | @revised stored changed named made =>
      rcases Database.mem_replaceGoal isLater with rfl | isOld
      · have step : SyncStep scope definition database _ _ := .revised named made
        obtain ⟨_, revises, isAfter⟩ := step.goalNamed_of_some distinct named
        obtain rfl := Except.ok.inj (made.symm.trans revises)
        exact Or.inr (Or.inl isAfter)
      · exact Or.inl isOld

theorem Syncs.mem_after (syncs : Syncs scope definitions database after made) {goal : Goal}
    (isLater : goal ∈ after.goals) :
    goal ∈ database.goals ∨
      (∃ definition ∈ definitions, after.goalNamed scope definition.name = some goal) ∨
      ¬goal.IsWithin scope := by
  induction syncs with
  | nil => exact Or.inl isLater
  | @cons definition rest database between after _ _ step later ih =>
      have stillDistinct := step.idsDistinct distinct
      rcases ih stillDistinct isLater with isBetween | ⟨other, isOther, isNamed⟩ | outside
      · rcases step.mem_after distinct isBetween with isOld | isNamed | outside
        · exact Or.inl isOld
        · refine Or.inr (Or.inl ⟨definition, List.mem_cons_self, ?_⟩)
          obtain ⟨changed, revises, isAfter⟩ := later.goalNamed_of_some stillDistinct isNamed
          have lastDistinct := later.idsDistinct stillDistinct
          obtain ⟨_, hasName⟩ := Database.mem_of_goalNamed isNamed
          obtain ⟨isChanged, _⟩ := Database.mem_of_goalNamed isAfter
          have kept := Goal.keepsPlace_of_reviseAll (fun other isOther =>
            (mem_ofName_iff.mp isOther).2.trans hasName.symm) revises
          rw [isAfter, List.inj_on_of_nodup_map lastDistinct isChanged isLater kept.id]
        · exact Or.inr (Or.inr outside)
      · exact Or.inr (Or.inl ⟨other, List.mem_cons_of_mem definition isOther, isNamed⟩)
      · exact Or.inr (Or.inr outside)

theorem Syncs.named_of_none_created (syncs : Syncs scope definitions database after made)
    (noneCreated : made.created = 0) :
    ∀ definition ∈ definitions, ∃ stored, database.goalNamed scope definition.name = some stored := by
  induction syncs with
  | nil => exact List.forall_mem_nil _
  | @cons first rest database between after counts others step _ ih =>
      have noneFirst : counts.created = 0 := Nat.eq_zero_of_add_eq_zero_right noneCreated
      have noneLater : others.created = 0 := Nat.eq_zero_of_add_eq_zero_left noneCreated
      cases named : database.goalNamed scope first.name with
      | none =>
          cases step with
          | created _ _ => exact absurd noneFirst Nat.one_ne_zero
          | revised isNamed _ =>
              rw [named] at isNamed
              contradiction
      | some stored =>
          refine List.forall_mem_cons.mpr ⟨⟨stored, named⟩, fun definition isOther => ?_⟩
          by_cases same : first.name = definition.name
          · exact ⟨stored, same ▸ named⟩
          · obtain ⟨goal, isNamed⟩ := ih (step.idsDistinct distinct) noneLater definition isOther
            exact ⟨goal, (step.goalNamed_of_ne distinct same).symm.trans isNamed⟩

end

theorem syncs_of_named {scope : Scope} {definitions : List GoalDefinition} {database : Database}
    (distinct : database.GoalIdsDistinct)
    (revises : ∀ definition ∈ definitions, ∃ stored changed,
      database.goalNamed scope definition.name = some stored ∧
        stored.reviseAll (ofName definition.name definitions) = .ok changed) :
    ∃ after, Syncs scope definitions database after ⟨0, definitions.length⟩ := by
  induction definitions generalizing database with
  | nil => exact ⟨database, .nil database⟩
  | cons first rest ih =>
      obtain ⟨⟨stored, last, named, revisesFirst⟩, revisesRest⟩ := List.forall_mem_cons.mp revises
      rw [ofName_cons, if_pos rfl, Goal.reviseAll_cons] at revisesFirst
      obtain ⟨changed, made, others⟩ := Except.bind_eq_ok_iff.mp revisesFirst
      have step : SyncStep scope first database _ _ := .revised named made
      have stillDistinct := step.idsDistinct distinct
      obtain ⟨after, later⟩ := ih stillDistinct fun definition isOther => by
        by_cases same : first.name = definition.name
        · obtain ⟨_, isChanged, isNamed⟩ := step.goalNamed_of_some distinct named
          obtain rfl := Except.ok.inj (made.symm.trans isChanged)
          rw [← same]
          exact ⟨changed, last, isNamed, others⟩
        · obtain ⟨goal, final, isNamed, revisesGoal⟩ := revisesRest definition isOther
          rw [ofName_cons, if_neg same] at revisesGoal
          exact ⟨goal, final, (step.goalNamed_of_ne distinct same).trans isNamed, revisesGoal⟩
      refine ⟨after, ?_⟩
      have counted := Syncs.cons step later
      simpa only [SyncCounts.plus, Nat.zero_add, List.length_cons, Nat.add_comm 1] using counted

end GoalsFile

end ConversionTracking
