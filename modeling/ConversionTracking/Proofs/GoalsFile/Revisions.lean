import ConversionTracking.Proofs.GoalsFile.Syncs
import ConversionTracking.Proofs.Store.Rewriting

/-!
Goals after several revisions. Such a goal shows the last of the definitions, in its own place, with
documents to which those of all the definitions were written. Revised by the same definitions again it
stays what it is.
-/

namespace ConversionTracking

structure GoalDefinition.IsWritableOver (definition : GoalDefinition) (goal : Goal) : Prop where
  conditions : goal.conditions.equals definition.conditions.toValue = true ∨
    ∃ written, definition.conditions.toValue.document? = some written
  steps : goal.funnelSteps.equals definition.stepsValue = true ∨
    ∃ written, definition.stepsValue.document? = some written

namespace Goal

def row (place : Goal) (definition : GoalDefinition) (conditions funnelSteps : Value) : Goal where
  id := place.id
  siteId := place.siteId
  tenantId := place.tenantId
  name := definition.name
  description := definition.description
  goalType := definition.goalType
  conditions
  valueType := definition.valueType
  fixedValue := definition.fixedValue.bind Column.keptNumber
  dynamicPath := definition.dynamicPath
  allowMultiple := definition.allowMultiple
  isActive := definition.isActive
  funnelSteps

def Shows (goal : Goal) (definition : GoalDefinition) : Prop :=
  goal = goal.row definition goal.conditions goal.funnelSteps

/-- The goals differ at most in documents that are alike. -/
structure Alike (goal other : Goal) : Prop where
  same : other = { goal with conditions := other.conditions, funnelSteps := other.funnelSteps }
  conditions : goal.conditions.Alike other.conditions
  funnelSteps : goal.funnelSteps.Alike other.funnelSteps

theorem Alike.refl (goal : Goal) : goal.Alike goal := ⟨rfl, .refl _, .refl _⟩

variable {stored goal changed : Goal} {definition last : GoalDefinition}
  {definitions : List GoalDefinition}

theorem Alike.of_shows {other : Goal} (shows : goal.Shows last) (otherShows : other.Shows last)
    (kept : goal.KeepsPlace other) (conditions : goal.conditions.Alike other.conditions)
    (funnelSteps : goal.funnelSteps.Alike other.funnelSteps) : goal.Alike other := by
  refine ⟨?_, conditions, funnelSteps⟩
  rw [otherShows, row, kept.id, kept.siteId, kept.tenantId, shows]
  rfl

theorem shows_of_ofDefinition {id : Int} {scope : Scope}
    (made : ofDefinition id (definition.placedIn scope) = .ok goal) : goal.Shows definition := by
  obtain ⟨_, _, made⟩ := Except.bind_eq_ok_iff.mp made
  obtain ⟨_, _, made⟩ := Except.bind_eq_ok_iff.mp made
  obtain ⟨_, rfl⟩ := (ofParts_eq_ok_iff _ _ _ _ _).mp made
  rfl

theorem shows_of_revised (made : stored.revised (definition.inPlaceOf stored) = .ok goal) :
    goal.Shows definition := by
  obtain ⟨_, _, made⟩ := Except.bind_eq_ok_iff.mp made
  obtain ⟨_, _, made⟩ := Except.bind_eq_ok_iff.mp made
  obtain ⟨_, rfl⟩ := (ofParts_eq_ok_iff _ _ _ _ _).mp made
  rfl

theorem documents_of_revised (made : stored.revised definition = .ok goal) :
    Column.rewritten stored.conditions definition.conditions.toValue = .ok goal.conditions ∧
      Column.rewritten stored.funnelSteps definition.stepsValue = .ok goal.funnelSteps := by
  obtain ⟨_, conditions, made⟩ := Except.bind_eq_ok_iff.mp made
  obtain ⟨_, steps, made⟩ := Except.bind_eq_ok_iff.mp made
  obtain ⟨_, rfl⟩ := (ofParts_eq_ok_iff _ _ _ _ _).mp made
  exact ⟨conditions, steps⟩

theorem documents_of_ofDefinition {id : Int} (made : ofDefinition id definition = .ok goal) :
    definition.conditions.toValue.document? = some goal.conditions ∧
      definition.stepsValue.document? = some goal.funnelSteps := by
  obtain ⟨_, conditions, made⟩ := Except.bind_eq_ok_iff.mp made
  obtain ⟨_, steps, made⟩ := Except.bind_eq_ok_iff.mp made
  obtain ⟨_, rfl⟩ := (ofParts_eq_ok_iff _ _ _ _ _).mp made
  exact ⟨(Column.document_eq_ok_iff _ _).mp conditions, (Column.document_eq_ok_iff _ _).mp steps⟩

def SiteFits (goal : Goal) : Prop := ∀ site, goal.siteId = some site → checkWord site = .ok ()

theorem KeepsPlace.siteFits (kept : stored.KeepsPlace changed) (siteFits : stored.SiteFits) :
    changed.SiteFits := by
  rw [SiteFits, kept.siteId]
  exact siteFits

theorem isWritableOver_of_revised (made : stored.revised (definition.inPlaceOf stored) = .ok goal) :
    definition.IsWritableOver stored := by
  obtain ⟨conditions, funnelSteps⟩ := documents_of_revised made
  exact ⟨(Column.exists_rewritten_iff _ _).mp ⟨_, conditions⟩,
    (Column.exists_rewritten_iff _ _).mp ⟨_, funnelSteps⟩⟩

theorem exists_revised (siteFits : stored.SiteFits) (writable : definition.IsWritableOver stored) :
    ∃ goal, stored.revised (definition.inPlaceOf stored) = .ok goal := by
  obtain ⟨conditions, writes⟩ := (Column.exists_rewritten_iff _ _).mpr writable.conditions
  obtain ⟨funnelSteps, writesSteps⟩ := (Column.exists_rewritten_iff _ _).mpr writable.steps
  refine ⟨stored.row definition conditions funnelSteps, ?_⟩
  refine Except.bind_eq_ok_iff.mpr ⟨conditions, writes, ?_⟩
  refine Except.bind_eq_ok_iff.mpr ⟨funnelSteps, writesSteps, ?_⟩
  exact (ofParts_eq_ok_iff _ _ _ _ _).mpr ⟨siteFits, rfl⟩

theorem documents_of_reviseAll (made : stored.reviseAll definitions = .ok goal) :
    Column.rewriteAll stored.conditions (definitions.map (·.conditions.toValue)) =
        .ok goal.conditions ∧
      Column.rewriteAll stored.funnelSteps (definitions.map (·.stepsValue)) =
        .ok goal.funnelSteps := by
  induction definitions generalizing stored with
  | nil =>
      obtain rfl := Except.ok.inj made
      exact ⟨rfl, rfl⟩
  | cons definition rest ih =>
      rw [reviseAll_cons] at made
      obtain ⟨between, first, others⟩ := Except.bind_eq_ok_iff.mp made
      obtain ⟨conditions, funnelSteps⟩ := documents_of_revised first
      obtain ⟨restConditions, restSteps⟩ := ih others
      rw [List.map_cons, List.map_cons, Column.rewriteAll_cons, Column.rewriteAll_cons]
      exact ⟨Except.bind_eq_ok_iff.mpr ⟨_, conditions, restConditions⟩,
        Except.bind_eq_ok_iff.mpr ⟨_, funnelSteps, restSteps⟩⟩

theorem exists_reviseAll (siteFits : stored.SiteFits)
    (sameName : ∀ definition ∈ definitions, definition.name = stored.name)
    {conditions funnelSteps : Value}
    (writes : Column.rewriteAll stored.conditions (definitions.map (·.conditions.toValue)) =
      .ok conditions)
    (writesSteps : Column.rewriteAll stored.funnelSteps (definitions.map (·.stepsValue)) =
      .ok funnelSteps) :
    ∃ goal, stored.reviseAll definitions = .ok goal := by
  induction definitions generalizing stored with
  | nil => exact ⟨stored, rfl⟩
  | cons definition rest ih =>
      rw [List.map_cons, Column.rewriteAll_cons] at writes writesSteps
      obtain ⟨_, first, others⟩ := Except.bind_eq_ok_iff.mp writes
      obtain ⟨_, firstSteps, otherSteps⟩ := Except.bind_eq_ok_iff.mp writesSteps
      obtain ⟨between, made⟩ := exists_revised siteFits
        ⟨(Column.exists_rewritten_iff _ _).mp ⟨_, first⟩,
          (Column.exists_rewritten_iff _ _).mp ⟨_, firstSteps⟩⟩
      obtain ⟨isFirst, areFirstSteps⟩ := documents_of_revised made
      obtain rfl := Except.ok.inj (first.symm.trans isFirst)
      obtain rfl := Except.ok.inj (firstSteps.symm.trans areFirstSteps)
      obtain ⟨isNamed, restNamed⟩ := List.forall_mem_cons.mp sameName
      have kept := keepsPlace_of_revised isNamed.symm made
      obtain ⟨goal, revises⟩ := ih (kept.siteFits siteFits)
        (fun other member => (restNamed other member).trans kept.name.symm) others otherSteps
      exact ⟨goal, by rw [reviseAll_cons, made]; exact revises⟩

theorem exists_last_revised (isLast : definitions.getLast? = some last)
    (made : stored.reviseAll definitions = .ok goal) :
    ∃ before between, definitions = before ++ [last] ∧ stored.reviseAll before = .ok between ∧
      between.revised (last.inPlaceOf between) = .ok goal := by
  obtain ⟨before, rfl⟩ := List.getLast?_eq_some_iff.mp isLast
  rw [reviseAll_append] at made
  obtain ⟨between, first, others⟩ := Except.bind_eq_ok_iff.mp made
  rw [reviseAll_cons] at others
  obtain ⟨changed, revises, isChanged⟩ := Except.bind_eq_ok_iff.mp others
  obtain rfl := Except.ok.inj isChanged
  exact ⟨before, between, rfl, first, revises⟩

theorem shows_of_reviseAll (isLast : definitions.getLast? = some last)
    (made : stored.reviseAll definitions = .ok goal) : goal.Shows last := by
  obtain ⟨_, _, _, _, revises⟩ := exists_last_revised isLast made
  exact shows_of_revised revises

theorem holds_of_reviseAll
    (areDocuments : stored.conditions.IsDocument ∧ stored.funnelSteps.IsDocument)
    (isLast : definitions.getLast? = some last) (made : stored.reviseAll definitions = .ok goal) :
    Column.Holds last.conditions.toValue goal.conditions ∧
      Column.Holds last.stepsValue goal.funnelSteps := by
  obtain ⟨before, between, _, first, revises⟩ := exists_last_revised isLast made
  obtain ⟨writes, writesSteps⟩ := documents_of_reviseAll first
  obtain ⟨conditions, funnelSteps⟩ := documents_of_revised revises
  exact ⟨Column.holds_of_rewritten (Column.isDocument_of_rewriteAll areDocuments.1 writes) conditions,
    Column.holds_of_rewritten (Column.isDocument_of_rewriteAll areDocuments.2 writesSteps)
      funnelSteps⟩

theorem alike_of_documents (siteFits : goal.SiteFits)
    (sameName : ∀ definition ∈ definitions, definition.name = goal.name)
    (isLast : definitions.getLast? = some last) (shows : goal.Shows last)
    {conditions funnelSteps : Value}
    (writes : Column.rewriteAll goal.conditions (definitions.map (·.conditions.toValue)) =
      .ok conditions)
    (writesSteps : Column.rewriteAll goal.funnelSteps (definitions.map (·.stepsValue)) =
      .ok funnelSteps)
    (alike : goal.conditions.Alike conditions) (alikeSteps : goal.funnelSteps.Alike funnelSteps) :
    ∃ other, goal.reviseAll definitions = .ok other ∧ goal.Alike other ∧
      other.conditions = conditions ∧ other.funnelSteps = funnelSteps := by
  obtain ⟨other, revises⟩ := exists_reviseAll siteFits sameName writes writesSteps
  obtain ⟨isConditions, areSteps⟩ := documents_of_reviseAll revises
  obtain rfl := Except.ok.inj (writes.symm.trans isConditions)
  obtain rfl := Except.ok.inj (writesSteps.symm.trans areSteps)
  have otherShows := shows_of_reviseAll isLast revises
  have kept := keepsPlace_of_reviseAll sameName revises
  exact ⟨other, revises, .of_shows shows otherShows kept alike alikeSteps, rfl, rfl⟩

theorem Alike.eq_of_documents {other : Goal} (alike : goal.Alike other)
    (conditions : other.conditions = goal.conditions)
    (funnelSteps : other.funnelSteps = goal.funnelSteps) : other = goal := by
  rw [alike.same, conditions, funnelSteps]

theorem reviseAll_again {rest : List GoalDefinition} (siteFits : stored.SiteFits)
    (areDocuments : stored.conditions.IsDocument ∧ stored.funnelSteps.IsDocument)
    (sameName : ∀ other ∈ definition :: rest, other.name = stored.name)
    (made : stored.reviseAll (definition :: rest) = .ok goal)
    (writable : definition.IsWritableOver goal) :
    goal.reviseAll (definition :: rest) = .ok goal := by
  have kept := keepsPlace_of_reviseAll sameName made
  obtain ⟨last, isLast⟩ := Option.ne_none_iff_exists'.mp
    (mt List.getLast?_eq_none_iff.mp (List.cons_ne_nil definition rest))
  have shows := shows_of_reviseAll isLast made
  rw [reviseAll_cons] at made
  obtain ⟨between, first, others⟩ := Except.bind_eq_ok_iff.mp made
  obtain ⟨firstConditions, firstSteps⟩ := documents_of_revised first
  obtain ⟨restConditions, restSteps⟩ := documents_of_reviseAll others
  obtain ⟨_, againConditions⟩ := (Column.exists_rewritten_iff _ _).mpr writable.conditions
  obtain ⟨_, againSteps⟩ := (Column.exists_rewritten_iff _ _).mpr writable.steps
  obtain ⟨other, revises, alike, sameConditions, sameSteps⟩ := alike_of_documents
    (kept.siteFits siteFits) (fun other member => (sameName other member).trans kept.name.symm)
    isLast shows
    (Column.rewriteAll_again (Column.holds_of_rewritten areDocuments.1 firstConditions)
      restConditions againConditions)
    (Column.rewriteAll_again (Column.holds_of_rewritten areDocuments.2 firstSteps)
      restSteps againSteps)
    (.refl _) (.refl _)
  rw [revises, alike.eq_of_documents sameConditions sameSteps]

section

variable {id : Int} {scope : Scope} {later : List GoalDefinition}
  (made : ofDefinition id (definition.placedIn scope) = .ok stored)
  (revises : stored.reviseAll later = .ok goal)
  (isLast : (definition :: later).getLast? = some last)

include made revises isLast

theorem shows_of_created : goal.Shows last := by
  cases later with
  | nil =>
      obtain rfl := Except.ok.inj revises
      obtain rfl := Option.some.inj isLast
      exact shows_of_ofDefinition made
  | cons next rest => exact shows_of_reviseAll (List.getLast?_cons_cons ▸ isLast) revises

theorem holds_of_created : Column.Holds last.conditions.toValue goal.conditions ∧
    Column.Holds last.stepsValue goal.funnelSteps := by
  have stores := stores_of_ofDefinition made
  cases later with
  | nil =>
      obtain rfl := Except.ok.inj revises
      obtain rfl := Option.some.inj isLast
      exact ⟨stores.conditions, stores.funnelSteps⟩
  | cons next rest =>
      exact holds_of_reviseAll ⟨stores.conditions.isDocument, stores.funnelSteps.isDocument⟩
        (List.getLast?_cons_cons ▸ isLast) revises

end

theorem reviseAll_created {id : Int} {scope : Scope} {outside later : List GoalDefinition}
    (made : ofDefinition id (definition.placedIn scope) = .ok stored)
    (revises : stored.reviseAll later = .ok goal)
    (sameName : ∀ other ∈ outside ++ definition :: later, other.name = definition.name)
    (areWritten : ∀ other ∈ outside, ∃ id written,
      ofDefinition id (other.placedIn scope) = .ok written) :
    ∃ changed, goal.reviseAll (outside ++ definition :: later) = .ok changed ∧ goal.Alike changed ∧
      (outside = [] → changed = goal) := by
  have stores := stores_of_ofDefinition made
  have hasName : stored.name = definition.name := stores.name
  have laterNamed : ∀ other ∈ later, other.name = stored.name := fun other member =>
    (sameName other (List.mem_append_right _ (List.mem_cons_of_mem _ member))).trans hasName.symm
  have kept := keepsPlace_of_reviseAll laterNamed revises
  obtain ⟨isConditions, areSteps⟩ := documents_of_ofDefinition made
  obtain ⟨laterConditions, laterSteps⟩ := documents_of_reviseAll revises
  have outsideWritten (other : GoalDefinition) (member : other ∈ outside) :
      (∃ written, other.conditions.toValue.document? = some written) ∧
        ∃ written, other.stepsValue.document? = some written := by
    obtain ⟨_, _, isMade⟩ := areWritten other member
    obtain ⟨conditions, steps⟩ := documents_of_ofDefinition isMade
    exact ⟨⟨_, conditions⟩, ⟨_, steps⟩⟩
  obtain ⟨conditions, writes, alike, sameConditions⟩ :=
    Column.rewriteAll_from_written isConditions laterConditions
      (List.forall_mem_map.mpr fun other member => (outsideWritten other member).1)
  obtain ⟨funnelSteps, writesSteps, alikeSteps, sameSteps⟩ :=
    Column.rewriteAll_from_written areSteps laterSteps
      (List.forall_mem_map.mpr fun other member => (outsideWritten other member).2)
  obtain ⟨last, isLast⟩ := Option.ne_none_iff_exists'.mp
    (mt List.getLast?_eq_none_iff.mp (List.append_ne_nil_of_right_ne_nil outside
      (List.cons_ne_nil definition later)))
  have shows : goal.Shows last := shows_of_created made revises
    (List.getLast?_append_of_ne_nil outside (List.cons_ne_nil _ _) ▸ isLast)
  obtain ⟨changed, again, areAlike, isSame, areSame⟩ := alike_of_documents
    (kept.siteFits stores.siteFits)
    (fun other member => (sameName other member).trans (hasName.symm.trans kept.name.symm)) isLast
    shows (by rw [List.map_append]; exact writes) (by rw [List.map_append]; exact writesSteps) alike
    alikeSteps
  refine ⟨changed, again, areAlike, ?_⟩
  rintro rfl
  exact areAlike.eq_of_documents (isSame.trans (sameConditions rfl)) (areSame.trans (sameSteps rfl))

end Goal

end ConversionTracking
