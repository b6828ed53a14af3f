import ConversionTracking.Proofs.GoalsFile.Revisions

/-!
Definitions that are brought into the database again. The second run updates what the first one left
and leaves it as it is, if it finds the goals: a goal that was created outside the scope is out of its
sight, and is created once more.
-/

namespace ConversionTracking

theorem Goal.forall₂_of_ids {relation : Goal → Goal → Prop} {goals others : List Goal}
    (sameIds : others.map (·.id) = goals.map (·.id)) (distinct : (goals.map (·.id)).Nodup)
    (each : ∀ goal ∈ goals, ∃ other ∈ others, other.id = goal.id ∧ relation goal other) :
    List.Forall₂ relation goals others := by
  induction goals generalizing others with
  | nil =>
      rw [List.map_eq_nil_iff.mp sameIds]
      exact .nil
  | cons goal rest ih =>
      cases others with
      | nil => contradiction
      | cons other otherRest =>
          obtain ⟨firstId, restIds⟩ := List.cons.inj sameIds
          obtain ⟨isNew, restDistinct⟩ := List.nodup_cons.mp distinct
          obtain ⟨⟨found, isFound, foundId, isRelated⟩, eachRest⟩ := List.forall_mem_cons.mp each
          have laterNew (later : Goal) (isLater : later ∈ rest) : later.id ≠ goal.id := fun same =>
            isNew (List.mem_map.mpr ⟨later, isLater, same⟩)
          refine .cons ?_ (ih restIds restDistinct fun later isLater => ?_)
          · rcases List.mem_cons.mp isFound with rfl | isOther
            · exact isRelated
            · have isOld : found.id ∈ rest.map (·.id) := restIds ▸ List.mem_map_of_mem isOther
              obtain ⟨later, isLater, sameId⟩ := List.mem_map.mp isOld
              exact absurd (sameId.trans foundId) (laterNew later isLater)
          · obtain ⟨another, isThere, sameId, areRelated⟩ := eachRest later isLater
            rcases List.mem_cons.mp isThere with rfl | isOther
            · exact absurd (sameId.symm.trans firstId) (laterNew later isLater)
            · exact ⟨another, isOther, sameId, areRelated⟩

theorem Goal.KeepsPlace.of_alike {goal other : Goal} (alike : goal.Alike other) :
    goal.KeepsPlace other := by
  rw [alike.same]
  exact ⟨rfl, rfl, rfl, rfl⟩

namespace GoalsFile

variable {scope : Scope} {definition : GoalDefinition} {definitions : List GoalDefinition}

theorem mem_of_head?_ofName {name : String}
    (isHead : (ofName name definitions).head? = some definition) : definition ∈ definitions :=
  (mem_ofName_iff.mp (List.mem_of_head? isHead)).1

theorem fitsWord_of_sync {counts counted : SyncCounts} {database : Database}
    (completes : (sync scope counts (definition :: definitions)).result database = .ok counted) :
    scope.FitsWord := by
  refine Scope.fitsWord_of_check ?_
  rw [sync, Work.result_bind, syncOne, Work.result_bind, Work.result_read,
    Database.findGoalByName] at completes
  cases checked : scope.check with
  | ok _ => rfl
  | error fault =>
      rw [checked] at completes
      contradiction

section

variable {before first : Database} {made : SyncCounts}
  (syncs : Syncs scope definitions before first made) (distinct : before.GoalIdsDistinct)

include syncs distinct

theorem Syncs.isNamed_iff {name : String} :
    (∃ goal, first.goalNamed scope name = some goal) ↔
      (∃ goal, before.goalNamed scope name = some goal) ∨
        ∃ definition ∈ definitions, definition.name = name ∧ definition.LiesIn scope := by
  cases named : before.goalNamed scope name with
  | some stored =>
      obtain ⟨changed, _, isAfter⟩ := syncs.goalNamed_of_some distinct named
      exact iff_of_true ⟨changed, isAfter⟩ (Or.inl ⟨stored, rfl⟩)
  | none =>
      rcases syncs.goalNamed_of_none distinct named with ⟨areOutside, isAfter⟩ |
        ⟨outside, created, later, _, _, goal, split, _, lies, _, _, isAfter⟩
      · rw [isAfter]
        refine iff_of_false (by simp) ?_
        rintro (⟨_, isNone⟩ | ⟨definition, member, isNamed, lies⟩)
        · contradiction
        · exact areOutside definition (mem_ofName_iff.mpr ⟨member, isNamed⟩) lies
      · have member : created ∈ ofName name definitions := by simp [split]
        obtain ⟨isCreated, isNamed⟩ := mem_ofName_iff.mp member
        exact iff_of_true ⟨goal, isAfter⟩ (Or.inr ⟨created, isCreated, isNamed, lies⟩)

theorem Syncs.reviseAll_again (valid : before.StoresValid) {name : String}
    (isHead : (ofName name definitions).head? = some definition) {goal : Goal}
    (named : first.goalNamed scope name = some goal) (writable : definition.IsWritableOver goal) :
    ∃ last, goal.reviseAll (ofName name definitions) = .ok last ∧ goal.Alike last ∧
      ((∃ stored, before.goalNamed scope name = some stored) ∨ definition.LiesIn scope →
        last = goal) := by
  have isNamed : ∀ definition ∈ ofName name definitions, definition.name = name :=
    fun _ member => (mem_ofName_iff.mp member).2
  obtain ⟨rest, isList⟩ := List.head?_eq_some_iff.mp isHead
  cases isBefore : before.goalNamed scope name with
  | some stored =>
      obtain ⟨other, revises, isAfter⟩ := syncs.goalNamed_of_some distinct isBefore
      obtain rfl := Option.some.inj (isAfter.symm.trans named)
      obtain ⟨held, hasName⟩ := Database.mem_of_goalNamed isBefore
      obtain ⟨_, _, _, stores⟩ := valid stored held
      rw [isList] at isNamed revises ⊢
      have same := Goal.reviseAll_again stores.siteFits
        ⟨stores.conditions.isDocument, stores.funnelSteps.isDocument⟩
        (fun definition member => (isNamed definition member).trans hasName.symm) revises writable
      exact ⟨other, same, .refl other, fun _ => rfl⟩
  | none =>
      rcases syncs.goalNamed_of_none distinct isBefore with ⟨_, isAfter⟩ |
        ⟨outside, created, later, _, start, other, split, areOutside, _, made, revises, isAfter⟩
      · rw [named] at isAfter
        contradiction
      · obtain rfl := Option.some.inj (isAfter.symm.trans named)
        rw [split] at isNamed isHead ⊢
        have createdNamed := isNamed created (by simp)
        obtain ⟨last, revisesAgain, alike, sameAlone⟩ := Goal.reviseAll_created made revises
          (fun definition member => (isNamed definition member).trans createdNamed.symm)
          (fun definition member => (areOutside definition member).2)
        refine ⟨last, revisesAgain, alike, ?_⟩
        -- The head lies in the scope, so no definition comes before the one that created the goal.
        rintro (⟨_, isSome⟩ | lies)
        · contradiction
        · refine sameAlone ?_
          cases outside with
          | nil => rfl
          | cons outer _ =>
              obtain rfl := Option.some.inj isHead
              exact absurd lies (areOutside outer List.mem_cons_self).1

end

/-- Another run finds a goal for the definition and can write the definition over it. -/
structure IsRepeatable (scope : Scope) (definitions : List GoalDefinition) (before first : Database)
    (definition : GoalDefinition) : Prop where
  /-- A goal of the name was found from the start, or a definition of the name lies in the scope. -/
  placed : (∃ goal, before.findGoalByName scope definition.name = .ok (some goal)) ∨
    ∃ other ∈ definitions, other.name = definition.name ∧ other.LiesIn scope
  writable : (ofName definition.name definitions).head? = some definition → ∀ goal,
    first.findGoalByName scope definition.name = .ok (some goal) → definition.IsWritableOver goal

/-- The scope saw a goal of the name from the start, or sees the one that the definition creates. -/
def IsInPlace (scope : Scope) (before : Database) (definition : GoalDefinition) : Prop :=
  (∃ goal, before.findGoalByName scope definition.name = .ok (some goal)) ∨ definition.LiesIn scope

/-- The name leads to the goal, the first definition of the name was not in place, and the other row is
the goal after all definitions of the name once more. -/
def IsRevisedAgain (scope : Scope) (definitions : List GoalDefinition) (before first : Database)
    (goal other : Goal) : Prop :=
  ∃ definition, (ofName definition.name definitions).head? = some definition ∧
    ¬IsInPlace scope before definition ∧
    first.findGoalByName scope definition.name = .ok (some goal) ∧
    goal.reviseAll (ofName definition.name definitions) = .ok other

section

variable {before first : Database} {made : SyncCounts}
  (syncs : Syncs scope definitions before first made) (distinct : before.GoalIdsDistinct)

include syncs distinct

theorem Syncs.isRepeatable_of_syncs (fits : scope.FitsWord) {second : Database} {updated : Nat}
    (again : Syncs scope definitions first second ⟨0, updated⟩) :
    ∀ definition ∈ definitions, IsRepeatable scope definitions before first definition := by
  have stillDistinct := syncs.idsDistinct distinct
  intro definition isListed
  have named := again.named_of_none_created stillDistinct rfl definition isListed
  constructor
  · simp only [Database.findGoalByName_of_fits fits, Except.ok.injEq]
    exact (syncs.isNamed_iff distinct).mp named
  · intro isHead goal isFound
    rw [Database.findGoalByName_of_fits fits, Except.ok.injEq] at isFound
    obtain ⟨last, revises, _⟩ := again.goalNamed_of_some stillDistinct isFound
    obtain ⟨rest, isList⟩ := List.head?_eq_some_iff.mp isHead
    rw [isList, Goal.reviseAll_cons] at revises
    obtain ⟨_, made, _⟩ := Except.bind_eq_ok_iff.mp revises
    exact Goal.isWritableOver_of_revised made

theorem Syncs.revises_of_isRepeatable (fits : scope.FitsWord) (valid : before.StoresValid)
    (repeatable : ∀ definition ∈ definitions,
      IsRepeatable scope definitions before first definition)
    (isListed : definition ∈ definitions) :
    ∃ goal last, first.goalNamed scope definition.name = some goal ∧
      goal.reviseAll (ofName definition.name definitions) = .ok last ∧ goal.Alike last ∧
      (last = goal ∨ IsRevisedAgain scope definitions before first goal last) := by
  have placed := (repeatable definition isListed).placed
  simp only [Database.findGoalByName_of_fits fits, Except.ok.injEq] at placed
  obtain ⟨goal, named⟩ := (syncs.isNamed_iff distinct).mpr placed
  have isThere : definition ∈ ofName definition.name definitions :=
    mem_ofName_iff.mpr ⟨isListed, rfl⟩
  obtain ⟨head, isHead⟩ := Option.ne_none_iff_exists'.mp
    (mt List.head?_eq_none_iff.mp (List.ne_nil_of_mem isThere))
  obtain ⟨headListed, headNamed⟩ := mem_ofName_iff.mp (List.mem_of_head? isHead)
  have writable := (repeatable head headListed).writable
  rw [headNamed, Database.findGoalByName_of_fits fits] at writable
  obtain ⟨last, revises, alike, sameAlone⟩ := syncs.reviseAll_again distinct valid isHead named
    (writable isHead goal (congrArg Except.ok named))
  refine ⟨goal, last, named, revises, alike, ?_⟩
  by_cases inPlace : IsInPlace scope before head
  · have headInPlace := inPlace
    simp only [IsInPlace, Database.findGoalByName_of_fits fits, Except.ok.injEq, headNamed]
      at headInPlace
    exact .inl (sameAlone headInPlace)
  · refine .inr ⟨head, headNamed.symm ▸ isHead, inPlace, ?_, headNamed.symm ▸ revises⟩
    rw [Database.findGoalByName_of_fits fits, headNamed, named]

/-- Definitions that are all found again are brought into the database once more. They create nothing,
and they leave the rows alike, and the same but where the first definition of a name had no place in the
scope. -/
theorem Syncs.exists_again (fits : scope.FitsWord) (valid : before.StoresValid)
    (repeatable : ∀ definition ∈ definitions,
      IsRepeatable scope definitions before first definition) :
    ∃ second, Syncs scope definitions first second ⟨0, definitions.length⟩ ∧
      List.Forall₂ (fun goal other => goal.Alike other ∧
        (other = goal ∨ IsRevisedAgain scope definitions before first goal other))
        first.goals second.goals := by
  have stillDistinct := syncs.idsDistinct distinct
  have revises {definition : GoalDefinition} (isListed : definition ∈ definitions) :=
    syncs.revises_of_isRepeatable distinct fits valid repeatable isListed
  obtain ⟨second, again⟩ := syncs_of_named stillDistinct fun definition isListed => by
    obtain ⟨goal, last, named, revisesGoal, _⟩ := revises isListed
    exact ⟨goal, last, named, revisesGoal⟩
  have sameIds : second.goalIds = first.goalIds := by
    obtain ⟨ids, isAfter, noneNew⟩ := again.goalIds
    rw [isAfter, List.length_eq_zero_iff.mp noneNew, List.append_nil]
  refine ⟨second, again, Goal.forall₂_of_ids sameIds stillDistinct fun goal held => ?_⟩
  by_cases isNamed : ∃ definition ∈ definitions, first.goalNamed scope definition.name = some goal
  · obtain ⟨definition, isListed, named⟩ := isNamed
    obtain ⟨stored, last, isStored, revisesGoal, alike, changes⟩ := revises isListed
    obtain rfl := Option.some.inj (isStored.symm.trans named)
    obtain ⟨other, revisesAgain, isAfter⟩ := again.goalNamed_of_some stillDistinct named
    obtain rfl := Except.ok.inj (revisesGoal.symm.trans revisesAgain)
    obtain ⟨isThere, _⟩ := Database.mem_of_goalNamed isAfter
    exact ⟨last, isThere, (Goal.KeepsPlace.of_alike alike).id, alike, changes⟩
  · refine ⟨goal, again.mem_of_not_named stillDistinct held fun definition isListed named => ?_,
      rfl, .refl goal, .inl rfl⟩
    exact isNamed ⟨definition, isListed, named⟩

end

/-- After a run that completes, another run of the same definitions under the same scope creates no
goal, counts every definition as updated and leaves all rows alike, exactly when it finds a goal for
each definition and can write the first definition of each name over it. The rows are then even the
same, but for those whose name led to no goal from the start and whose first definition lies outside of
the scope: these are what the definitions of the name make of them once more. -/
theorem sync_repeats_iff {ids : IdDraw} (operations : List Operation) (scope : Scope)
    {definitions : List GoalDefinition}
    (wellFormed : ∀ definition ∈ definitions, definition.IsWellFormed) {counts : SyncCounts}
    (completes : (sync scope ⟨0, 0⟩ definitions).result (Operation.run operations (.empty ids)) =
      .ok counts) :
    let before := Operation.run operations (.empty ids)
    let synced := sync scope ⟨0, 0⟩ definitions
    let first := synced.after before
    let second := synced.after first
    (synced.result first = .ok ⟨0, definitions.length⟩ ∧
        List.Forall₂ Goal.Alike first.goals second.goals ↔
      ∀ definition ∈ definitions, IsRepeatable scope definitions before first definition) ∧
    (synced.result first = .ok ⟨0, definitions.length⟩ →
      (∀ definition ∈ definitions, IsInPlace scope before definition) → second = first) ∧
    (synced.result first = .ok ⟨0, definitions.length⟩ →
      List.Forall₂ (fun goal other =>
        other = goal ∨ IsRevisedAgain scope definitions before first goal other)
        first.goals second.goals) := by
  intro before synced first second
  cases definitions with
  | nil =>
      exact ⟨iff_of_true ⟨rfl, List.forall₂_same.mpr fun goal _ => .refl goal⟩ (List.forall_mem_nil _),
        fun _ _ => rfl, fun _ => List.forall₂_same.mpr fun goal _ => .inl rfl⟩
  | cons head rest =>
      have fits := fitsWord_of_sync completes
      have valid := Operation.storesValid_run operations (Database.storesValid_empty ids)
      have distinct := (Operation.regular_run operations (Database.regular_empty ids)).idsDistinct
      obtain ⟨consistent, made, syncs, _⟩ :=
        (sync_eq_ok_iff fits wellFormed _ _ before first).mp ⟨completes, rfl⟩
      have updates_iff (after : Database) :
          synced.result first = .ok ⟨0, (head :: rest).length⟩ ∧ second = after ↔
            Syncs scope (head :: rest) first after ⟨0, (head :: rest).length⟩ := by
        rw [sync_eq_ok_iff fits wellFormed]
        constructor
        · rintro ⟨_, made, again, same⟩
          rw [made.zero_plus] at same
          exact same ▸ again
        · exact fun again => ⟨consistent, _, again, (SyncCounts.zero_plus _).symm⟩
      have repeatable (updates : synced.result first = .ok ⟨0, (head :: rest).length⟩) :=
        syncs.isRepeatable_of_syncs distinct fits ((updates_iff second).mp ⟨updates, rfl⟩)
      have rows (updates : synced.result first = .ok ⟨0, (head :: rest).length⟩) :
          List.Forall₂ (fun goal other => other = goal ∨
            IsRevisedAgain scope (head :: rest) before first goal other)
            first.goals second.goals := by
        obtain ⟨after, again, related⟩ :=
          syncs.exists_again distinct fits valid (repeatable updates)
        obtain ⟨_, rfl⟩ := (updates_iff after).mpr again
        exact related.imp fun _ _ both => both.2
      refine ⟨⟨fun repeats => repeatable repeats.1, fun isRepeatable => ?_⟩,
        fun updates inPlace => ?_, rows⟩
      · obtain ⟨after, again, related⟩ := syncs.exists_again distinct fits valid isRepeatable
        obtain ⟨updates, rfl⟩ := (updates_iff after).mpr again
        exact ⟨updates, related.imp fun _ _ both => both.1⟩
      · have sameGoals : first.goals = second.goals := by
          refine List.forall₂_eq_eq_eq ▸ (rows updates).imp fun goal other changes => ?_
          rcases changes with same | ⟨definition, isHead, notInPlace, _⟩
          · exact same.symm
          · exact absurd (inPlace definition (mem_of_head?_ofName isHead)) notInPlace
        have otherTables : first.SameButGoals second :=
          (changes_sync scope ⟨0, 0⟩ (head :: rest) first).related (fun _ _ _ => rfl) fun _ _ => rfl
        rw [Database.SameButGoals, ← sameGoals] at otherTables
        exact otherTables.symm

theorem own_signup_stays_when_repeated :
    let synced := sync ⟨some 1, none⟩ ⟨0, 0⟩ [.signupOn 1]
    synced.result (synced.after .empty) = .ok ⟨0, 1⟩ ∧
      synced.after (synced.after .empty) = synced.after .empty := by
  have wellFormed : ∀ definition ∈ [GoalDefinition.signupOn 1], definition.IsWellFormed :=
    List.forall_mem_singleton.mpr (GoalDefinition.isWellFormed_signupOn 1)
  have inPlace : ∀ definition ∈ [GoalDefinition.signupOn 1],
      definition.LiesIn ⟨some 1, none⟩ := by decide
  have completes : (sync ⟨some 1, none⟩ ⟨0, 0⟩ [.signupOn 1]).result .empty = .ok ⟨1, 0⟩ := by
    decide +kernel
  have updates : (sync ⟨some 1, none⟩ ⟨0, 0⟩ [.signupOn 1]).result
      ((sync ⟨some 1, none⟩ ⟨0, 0⟩ [.signupOn 1]).after .empty) = .ok ⟨0, 1⟩ := by decide +kernel
  obtain ⟨_, stays, _⟩ := sync_repeats_iff [] ⟨some 1, none⟩ wellFormed completes
  exact ⟨updates, stays updates fun definition isListed => Or.inr (inPlace definition isListed)⟩

/-- A goal for another site is out of the scope's sight, and another run creates a second one. -/
theorem foreign_signup_created_again :
    let synced := sync ⟨some 1, none⟩ ⟨0, 0⟩ [.signupOn 2]
    synced.result .empty = .ok ⟨1, 0⟩ ∧
      synced.result (synced.after .empty) = .ok ⟨1, 0⟩ ∧
      (synced.after .empty).goalIds = [1] ∧
      (synced.after (synced.after .empty)).goalIds = [1, 2] := by
  decide +kernel

end GoalsFile

end ConversionTracking
