import ConversionTracking.Proofs.GoalsFile.Revisions
import ConversionTracking.Proofs.GoalsFile.Syncing

/-!
What the goals are after definitions were brought into the database. The goal under a name shows the
last definition of the name, in the place of the goal that was there or else of the first definition.
Its documents equal those of the last definition, but need not be the same: an equal document that is
stored already is kept. All other goals are as they were.
-/

namespace ConversionTracking

def Value.IsRepresentable (value : Value) : Prop :=
  ∃ written, value.document? = some written ∧ written.isFinite = true

/-- The stored value equals the given one as JSON has it, as 0 equals false. -/
def Value.EqualsWritten (stored given : Value) : Prop :=
  ∃ written, given.document? = some written ∧ stored.equals written = true

theorem Value.equalsWritten_of_holds {value content : Value} (representable : value.IsRepresentable)
    (holds : Column.Holds value content) : content.EqualsWritten value := by
  obtain ⟨written, isWritten, finite⟩ := representable
  refine ⟨written, isWritten, ?_⟩
  rcases holds.alike_written isWritten with rfl | same
  · exact equals_self holds.isDocument finite
  · exact same

namespace GoalDefinition

def IsRepresentable (definition : GoalDefinition) : Prop :=
  ∀ entry ∈ definition.toEntries, entry.2.IsRepresentable

namespace IsRepresentable

variable {definition : GoalDefinition} (representable : definition.IsRepresentable)

include representable

theorem conditions : definition.conditions.toValue.IsRepresentable :=
  representable _ (Entries.mem_of_field? definition.writesOut_toEntries.conditions)

theorem steps : definition.stepsValue.IsRepresentable :=
  representable _ (Entries.mem_of_field? definition.writesOut_toEntries.funnelSteps)

theorem isStorable : definition.IsStorable := by
  obtain ⟨conditions, areWritten, _⟩ := representable.conditions
  obtain ⟨steps, stepsWritten, _⟩ := representable.steps
  exact ⟨⟨conditions, areWritten⟩, ⟨steps, stepsWritten⟩⟩

theorem isDecimalFree : definition.IsDecimalFree := by
  obtain ⟨_, areWritten, _⟩ := representable.conditions
  obtain ⟨_, stepsWritten, _⟩ := representable.steps
  exact ⟨Value.not_hasDecimal_of_document? areWritten,
    Value.not_hasDecimal_of_document? stepsWritten⟩

end IsRepresentable

end GoalDefinition

/-- The documents of the goal are what the given ones became when those of the definitions were written
over them, one after another. A document that equals the one that is there is not written. -/
structure Goal.HasRewritten (goal : Goal) (conditions funnelSteps : Value)
    (definitions : List GoalDefinition) : Prop where
  conditions : Column.rewriteAll conditions (definitions.map (·.conditions.toValue)) =
    .ok goal.conditions
  funnelSteps : Column.rewriteAll funnelSteps (definitions.map (·.stepsValue)) = .ok goal.funnelSteps

namespace GoalsFile

theorem isLoaded_of_representable {definition : GoalDefinition} {attributes : Entries}
    (valid : (GoalDefinition.validate attributes).result = .ok definition)
    (representable : definition.IsRepresentable) : IsLoaded definition := by
  obtain ⟨wellFormed, consistent⟩ := GoalDefinition.isWellFormed_of_validate valid
  exact ⟨wellFormed, consistent, representable.isDecimalFree⟩

theorem syncable_of_representable {definitions : List GoalDefinition} (names : List String)
    (representable : ∀ definition ∈ definitions, definition.IsRepresentable)
    (siteFits : ∀ definition ∈ definitions, definition.SiteFits) : Syncable names definitions := by
  rintro before definition after rfl
  have member : definition ∈ before ++ definition :: after := by simp
  exact ⟨(representable definition member).isStorable, Or.inl (siteFits definition member)⟩

/-- Everything but the place and the documents of the goal is the last definition's. The place is that of
the goal that had the name before, or else the first definition's, and the documents come from there
through all the definitions, so that they equal those of the last one. -/
structure IsSyncedFrom (before : Database) (name : String) (definitions : List GoalDefinition)
    (first last : GoalDefinition) (goal : Goal) : Prop where
  shows : goal.Shows last
  conditions : goal.conditions.EqualsWritten last.conditions.toValue
  funnelSteps : goal.funnelSteps.EqualsWritten last.stepsValue
  ofStored : ∀ stored, before.findGoalByName .everything name = .ok (some stored) →
    goal.id = stored.id ∧ goal.siteId = stored.siteId ∧ goal.tenantId = stored.tenantId ∧
      goal.HasRewritten stored.conditions stored.funnelSteps (ofName name definitions)
  ofFirst : before.findGoalByName .everything name = .ok none →
    goal.siteId = first.siteId ∧ goal.tenantId = first.tenantId ∧
      ∃ conditions funnelSteps, first.conditions.toValue.document? = some conditions ∧
        first.stepsValue.document? = some funnelSteps ∧
        goal.HasRewritten conditions funnelSteps (ofName name definitions).tail

theorem Syncs.exists_syncedFrom {definitions : List GoalDefinition} {before after : Database}
    {made : SyncCounts} (syncs : Syncs .everything definitions before after made)
    (valid : before.StoresValid) (distinct : before.GoalIdsDistinct)
    (representable : ∀ definition ∈ definitions, definition.IsRepresentable)
    {name : String} {first last : GoalDefinition}
    (isFirst : (ofName name definitions).head? = some first)
    (isLast : (ofName name definitions).getLast? = some last) :
    ∃ goal, after.goalNamed .everything name = some goal ∧
      IsSyncedFrom before name definitions first last goal := by
  have isNamed : ∀ definition ∈ ofName name definitions, definition.name = name :=
    fun _ member => (mem_ofName_iff.mp member).2
  have lastMember := List.mem_of_getLast? isLast
  have lastRepresentable := representable last (mem_ofName_iff.mp lastMember).1
  have found : before.findGoalByName .everything name = .ok (before.goalNamed .everything name) :=
    Database.findGoalByName_of_fits Scope.fitsWord_everything
  cases named : before.goalNamed .everything name with
  | some stored =>
      rw [named] at found
      obtain ⟨goal, revises, isAfter⟩ := syncs.goalNamed_of_some distinct named
      obtain ⟨held, hasName⟩ := Database.mem_of_goalNamed named
      obtain ⟨_, _, _, stores⟩ := valid stored held
      have shows := Goal.shows_of_reviseAll isLast revises
      obtain ⟨conditions, funnelSteps⟩ := Goal.holds_of_reviseAll
        ⟨stores.conditions.isDocument, stores.funnelSteps.isDocument⟩ isLast revises
      have kept := Goal.keepsPlace_of_reviseAll
        (fun definition member => (isNamed definition member).trans hasName.symm) revises
      refine ⟨goal, isAfter, shows,
        Value.equalsWritten_of_holds lastRepresentable.conditions conditions,
        Value.equalsWritten_of_holds lastRepresentable.steps funnelSteps,
        fun other isOther => ?_, fun isNone => ?_⟩
      · obtain rfl := Option.some.inj (Except.ok.inj (found.symm.trans isOther))
        obtain ⟨rewritten, stepsRewritten⟩ := Goal.documents_of_reviseAll revises
        exact ⟨kept.id, kept.siteId, kept.tenantId, rewritten, stepsRewritten⟩
      · exact absurd (found.symm.trans isNone) (by simp)
  | none =>
      rw [named] at found
      rcases syncs.goalNamed_of_none distinct named with
        ⟨areOutside, _⟩ | ⟨outside, created, later, id, start, goal, split, areOutside, _, made,
          revises, isAfter⟩
      · exact absurd rfl (areOutside last lastMember)
      · -- Every definition lies in the scope, so the first one is that of the new goal.
        obtain rfl : outside = [] := List.eq_nil_iff_forall_not_mem.mpr fun definition member =>
          (areOutside definition member).1 rfl
        rw [split] at isFirst isLast isNamed
        obtain rfl := Option.some.inj isFirst
        have shows := Goal.shows_of_created made revises isLast
        obtain ⟨conditions, funnelSteps⟩ := Goal.holds_of_created made revises isLast
        have stores := Goal.stores_of_ofDefinition made
        rw [created.placedIn_everything] at stores
        obtain ⟨firstNamed, laterNamed⟩ := List.forall_mem_cons.mp isNamed
        have hasName : start.name = name := stores.name.trans firstNamed
        have kept := Goal.keepsPlace_of_reviseAll
          (fun definition member => (laterNamed definition member).trans hasName.symm) revises
        refine ⟨goal, isAfter, shows,
          Value.equalsWritten_of_holds lastRepresentable.conditions conditions,
          Value.equalsWritten_of_holds lastRepresentable.steps funnelSteps,
          fun other isOther => ?_, fun _ => ?_⟩
        · exact absurd (found.symm.trans isOther) (by simp)
        · obtain ⟨written, stepsWritten⟩ := Goal.documents_of_ofDefinition made
          obtain ⟨rewritten, stepsRewritten⟩ := Goal.documents_of_reviseAll revises
          refine ⟨kept.siteId.trans stores.siteId, kept.tenantId.trans stores.tenantId, _, _, written,
            stepsWritten, ?_⟩
          rw [split]
          exact ⟨rewritten, stepsRewritten⟩

/-- Valid definitions that JSON has, with sites that fit their column, are brought into every database
that operations leave. Each of them creates a goal or updates one. The goal of every name shows the last
definition of the name, in its place and with the documents that went through all definitions of the
name, and no other goal is changed. -/
theorem sync_brings_up_to_date (ids : IdDraw) (operations : List Operation)
    {definitions : List GoalDefinition}
    (valid : ∀ definition ∈ definitions, ∃ attributes,
      (GoalDefinition.validate attributes).result = .ok definition)
    (representable : ∀ definition ∈ definitions, definition.IsRepresentable)
    (siteFits : ∀ definition ∈ definitions, definition.SiteFits) :
    let before := Operation.run operations (.empty ids)
    let synced := sync .everything ⟨0, 0⟩ definitions
    let after := synced.after before
    ∃ counts, synced.result before = .ok counts ∧
      counts.created + counts.updated = definitions.length ∧
      after.goals.length = before.goals.length + counts.created ∧
      (∀ name first last, (ofName name definitions).head? = some first →
        (ofName name definitions).getLast? = some last →
          ∃ goal, after.findGoalByName .everything name = .ok (some goal) ∧
            IsSyncedFrom before name definitions first last goal) ∧
      (∀ goal ∈ before.goals,
        (∀ definition ∈ definitions,
          before.findGoalByName .everything definition.name ≠ .ok (some goal)) →
        goal ∈ after.goals) ∧
      ∀ goal ∈ after.goals, goal ∈ before.goals ∨
        ∃ definition ∈ definitions,
          after.findGoalByName .everything definition.name = .ok (some goal) := by
  intro before synced after
  have storesValid := Operation.storesValid_run operations (Database.storesValid_empty ids)
  have distinct := (Operation.regular_run operations (Database.regular_empty ids)).idsDistinct
  have areLoaded : ∀ definition ∈ definitions, IsLoaded definition := by
    intro definition member
    obtain ⟨_, isValid⟩ := valid definition member
    exact isLoaded_of_representable isValid (representable definition member)
  obtain ⟨counts, result⟩ := (storedIff_sync areLoaded ⟨0, 0⟩ storesValid distinct).exists_ok_iff.mpr
    (syncable_of_representable _ representable siteFits)
  obtain ⟨_, made, syncs, rfl⟩ := (sync_eq_ok_iff Scope.fitsWord_everything
    (fun definition member => (areLoaded definition member).wellFormed) _ _ before after).mp
    ⟨result, rfl⟩
  rw [made.zero_plus] at result
  obtain ⟨ids, afterIds, areNew⟩ := syncs.goalIds
  simp only [Database.findGoalByName_of_fits Scope.fitsWord_everything, ne_eq, Except.ok.injEq]
  refine ⟨made, result, syncs.total, ?grown, ?carried, ?kept, ?others⟩
  case grown =>
    have lengths := congrArg List.length afterIds
    rwa [List.length_append, areNew, Database.goalIds, Database.goalIds, List.length_map,
      List.length_map] at lengths
  case carried =>
    intro name first last isFirst isLast
    exact syncs.exists_syncedFrom storesValid distinct representable isFirst isLast
  case kept => exact fun goal held notNamed => syncs.mem_of_not_named distinct held notNamed
  case others =>
    intro goal isLater
    rcases syncs.mem_after distinct isLater with isOld | isNamed | outside
    · exact Or.inl isOld
    · exact Or.inr isNamed
    · exact absurd goal.isWithin_everything outside

theorem signup_shows_last_on_first_site :
    let after := (sync .everything ⟨0, 0⟩ [.signupOn 1, .signupOn 2]).after .empty
    ∃ goal, after.findGoalByName .everything "Signup" = .ok (some goal) ∧
      goal.Shows (.signupOn 2) ∧ goal.siteId = some 1 := by
  have valid (site : Int) :
      (GoalDefinition.validate (GoalDefinition.signupOn site).toEntries).result =
        .ok (.signupOn site) :=
    ((GoalDefinition.isWellFormed_signupOn site).validate_eq_ok_iff
      (GoalDefinition.onlyFields_toEntries _) (GoalDefinition.isPresentedBy_toEntries _) _).mpr
      ⟨rfl, GoalDefinition.isConsistent_signupOn site⟩
  have representable (site : Int) (isSmall : isWritableWhole site = true) :
      (GoalDefinition.signupOn site).IsRepresentable := by
    have site : (Value.int site).IsRepresentable := by
      refine ⟨.int site, ?_, rfl⟩
      rw [Value.document?, isSmall, if_pos rfl]
    simp only [GoalDefinition.IsRepresentable, GoalDefinition.toEntries, GoalDefinition.signupOn,
      List.forall_mem_cons]
    exact ⟨⟨_, rfl, rfl⟩, ⟨_, rfl, rfl⟩, ⟨_, rfl, rfl⟩, ⟨_, rfl, rfl⟩, ⟨_, rfl, rfl⟩, ⟨_, rfl, rfl⟩,
      ⟨_, rfl, rfl⟩, ⟨_, rfl, rfl⟩, ⟨_, rfl, rfl⟩, ⟨_, rfl, rfl⟩, site, ⟨_, rfl, rfl⟩,
      List.forall_mem_nil _⟩
  have areValid : ∀ definition ∈ [GoalDefinition.signupOn 1, .signupOn 2], ∃ attributes,
      (GoalDefinition.validate attributes).result = .ok definition := by
    simpa using ⟨⟨_, valid 1⟩, _, valid 2⟩
  have areRepresentable : ∀ definition ∈ [GoalDefinition.signupOn 1, .signupOn 2],
      definition.IsRepresentable := by
    simpa using ⟨representable 1 (by decide +kernel), representable 2 (by decide +kernel)⟩
  have siteFits : ∀ definition ∈ [GoalDefinition.signupOn 1, .signupOn 2], definition.SiteFits := by
    simp [GoalDefinition.SiteFits, GoalDefinition.signupOn, checkWord]
  obtain ⟨_, _, _, _, carried, _⟩ :=
    sync_brings_up_to_date .lowest [] areValid areRepresentable siteFits
  obtain ⟨goal, found, synced⟩ := carried "Signup" (.signupOn 1) (.signupOn 2) rfl rfl
  have isNew : Database.empty.findGoalByName .everything "Signup" = .ok none :=
    (Database.findGoalByName_of_fits Scope.fitsWord_everything).trans
      (congrArg Except.ok (Database.goalNamed_eq_none_iff.mpr (List.forall_mem_nil _)))
  exact ⟨goal, found, synced.shows, (synced.ofFirst isNew).1⟩

def zeroThenFalseText : String :=
  "goals: [\x7bname: Paid, type: event, conditions: \x7bevent_name: signup, " ++
    "event_properties: \x7bpaid: \x7beq: 0\x7d\x7d\x7d\x7d, " ++
    "\x7bname: Paid, type: event, conditions: \x7bevent_name: signup, " ++
    "event_properties: \x7bpaid: \x7beq: false\x7d\x7d\x7d\x7d]"

def paidTargetText (conditions : Value) : Option String :=
  (conditions.atPath "event_properties.paid.eq").toOption.map Value.plainText

/-- The document with 0 equals the one with false and is kept. -/
theorem zero_kept_for_false :
    let synced := loadAndSync .everything "goals.yml" (some zeroThenFalseText)
    ((load "goals.yml" (some zeroThenFalseText)).result.map fun loaded =>
        loaded.definitions.map fun definition =>
          (definition.name, paidTargetText definition.conditions.toValue)) =
      .ok [("Paid", some "0"), ("Paid", some "False")] ∧
      ((synced.result .empty).map fun counts => (counts.created, counts.updated)) = .ok (1, 1) ∧
      ((synced.after .empty).goals.map fun goal => (goal.name, paidTargetText goal.conditions)) =
        [("Paid", some "0")] := by
  decide +kernel

end GoalsFile

end ConversionTracking
