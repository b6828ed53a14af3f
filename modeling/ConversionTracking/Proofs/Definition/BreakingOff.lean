import ConversionTracking.Proofs.Definition.Showing

/-!
Where the validation of a definition breaks off instead of telling what is wrong: at attributes that
have no name, at whole numbers that are too long to be shown, and at types of steps that cannot be
looked up.
-/

namespace ConversionTracking

theorem PartFault.shown_cases (part : PartFault) :
    (part.issues.all (·.isWritable) = true ∧ part.shown = .definition (.part part)) ∨
      (part.issues.all (·.isWritable) = false ∧ part.shown = .number .tooLongToWrite) := by
  unfold shown
  cases part.issues.all (·.isWritable) <;> simp

theorem PartFault.shown_eq_other_iff (part : PartFault) :
    (∀ cause, part.shown ≠ .definition cause) ↔ part.issues.all (·.isWritable) = false := by
  rcases part.shown_cases with ⟨isShown, same⟩ | ⟨tooLong, same⟩
  · simp [isShown, same]
  · simp [tooLong, same]

namespace FunnelStep

structure HasOtherType (raw type : Value) : Prop where
  found : ∃ entries : Entries, raw = .map entries ∧ entries.field? "type" = some type
  isGiven : type.isGiven = true
  notEvent : type ≠ .text "event"
  notPageView : type ≠ .text "pageview"

theorem HasOtherType.result_read {raw type : Value} (other : HasOtherType raw type) :
    (read raw).result =
      if type.isKey = false then .error .kindMismatch
      else if type.isWritable = false then .error (.number .tooLongToWrite)
      else .ok none := by
  obtain ⟨entries, rfl, found⟩ := other.found
  obtain rfl : givenType entries = type := by
    simp [givenType, Entries.field_eq, found, other.isGiven]
  rw [read_other other.notEvent other.notPageView]
  cases (givenType entries).isKey <;> cases (givenType entries).isWritable <;> rfl

inductive IsRefusedFor (raw : Value) : PartFault → Prop where
  | notMap (isOther : ∀ entries, raw ≠ .map entries) : IsRefusedFor raw (.stepNotMap raw.kindName)
  | event {entries : Entries} {issues : List Issue} (isMap : raw = .map entries)
      (isEvent : givenType entries = .text "event")
      (invalid : eventOf (typed entries) = .invalid issues) : IsRefusedFor raw (.invalidStep issues)
  | pageView {entries : Entries} {issues : List Issue} (isMap : raw = .map entries)
      (isPageView : givenType entries = .text "pageview")
      (invalid : pageViewOf (typed entries) = .invalid issues) :
      IsRefusedFor raw (.invalidStep issues)

theorem IsRefusedFor.result_read {raw : Value} {part : PartFault}
    (refused : IsRefusedFor raw part) : (read raw).result = .error part.shown := by
  cases refused with
  | notMap isOther =>
      cases raw with
      | map entries => exact absurd rfl (isOther entries)
      | _ => rfl
  | event isMap isEvent invalid =>
      rw [isMap, read_event isEvent, invalid]
      rfl
  | pageView isMap isPageView invalid =>
      rw [isMap, read_pageView isPageView, invalid]
      rfl

theorem result_read_cases (raw : Value) :
    (∃ type, HasOtherType raw type) ∨ (∃ step, (read raw).result = .ok (some step)) ∨
      ∃ part, IsRefusedFor raw part := by
  cases raw with
  | map entries =>
      by_cases isEvent : givenType entries = .text "event"
      · rw [read_event isEvent]
        cases checked : eventOf (typed entries) with
        | valid step => exact Or.inr (Or.inl ⟨step, rfl⟩)
        | invalid issues => exact Or.inr (Or.inr ⟨_, .event rfl isEvent checked⟩)
      · by_cases isPageView : givenType entries = .text "pageview"
        · rw [read_pageView isPageView]
          cases checked : pageViewOf (typed entries) with
          | valid step => exact Or.inr (Or.inl ⟨step, rfl⟩)
          | invalid issues => exact Or.inr (Or.inr ⟨_, .pageView rfl isPageView checked⟩)
        · obtain ⟨found, isGiven⟩ := field_of_givenType rfl isEvent
          exact Or.inl ⟨_, ⟨entries, rfl, found⟩, isGiven, isEvent, isPageView⟩
  | _ => exact Or.inr (Or.inr ⟨_, .notMap (by simp)⟩)

theorem IsRefusedFor.shown {raw : Value} {part : PartFault} (refused : IsRefusedFor raw part)
    (isWritable : raw.isWritable = true) : part.issues.all (·.isWritable) = true := by
  cases refused with
  | notMap => rfl
  | event isMap _ invalid =>
      subst isMap
      have showable := isShowable_eventOf (entriesAreWritable_typed isWritable)
      rw [invalid] at showable
      exact List.all_eq_true.mpr showable
  | pageView isMap _ invalid =>
      subst isMap
      have showable := isShowable_pageViewOf (entriesAreWritable_typed isWritable)
      rw [invalid] at showable
      exact List.all_eq_true.mpr showable

def HasUnusableType (entries : Entries) : Prop :=
  ∃ type, entries.field? "type" = some type ∧ type.isGiven = true ∧
    (type.isKey = false ∨ type.isWritable = false)

theorem HasOtherType.read_of_unusable {raw type : Value} (other : HasOtherType raw type)
    (unusable : type.isKey = false ∨ type.isWritable = false) :
    ∃ fault, (read raw).result = .error fault ∧ ∀ cause, fault ≠ .definition cause := by
  rw [other.result_read]
  rcases unusable with noKey | tooLong
  · rw [if_pos noKey]
    exact ⟨_, rfl, nofun⟩
  · rw [if_pos tooLong]
    split <;> exact ⟨_, rfl, nofun⟩

theorem HasUnusableType.read {entries : Entries} (unusable : HasUnusableType entries) :
    ∃ fault, (read (.map entries)).result = .error fault ∧ ∀ cause, fault ≠ .definition cause := by
  obtain ⟨type, found, isGiven, unusable⟩ := unusable
  have isOther (text : String) : type ≠ .text text := by
    rintro rfl
    simp [Value.isKey, Value.isWritable] at unusable
  exact HasOtherType.read_of_unusable ⟨⟨entries, rfl, found⟩, isGiven, isOther _, isOther _⟩ unusable

/-- The step is a map whose type cannot be looked up or shown, or it is refused for something that
holds a number too long to be shown. -/
inductive IsUnusable (raw : Value) : Prop where
  | type {entries : Entries} (isMap : raw = .map entries) (unusable : HasUnusableType entries)
  | issueTooLong {part : PartFault} (refused : IsRefusedFor raw part)
      (tooLong : part.issues.all (·.isWritable) = false)

theorem isUnusable_iff (raw : Value) :
    IsUnusable raw ↔
      ∃ fault, (read raw).result = .error fault ∧ ∀ cause, fault ≠ .definition cause := by
  constructor
  · rintro (⟨rfl, unusable⟩ | ⟨refused, tooLong⟩)
    · exact unusable.read
    · exact ⟨_, refused.result_read, (PartFault.shown_eq_other_iff _).mpr tooLong⟩
  · rintro ⟨fault, failed, isOther⟩
    rcases result_read_cases raw with ⟨type, other⟩ | ⟨step, reads⟩ | ⟨part, refused⟩
    · obtain ⟨entries, isMap, found⟩ := other.found
      refine .type isMap ⟨type, found, other.isGiven, ?_⟩
      rw [other.result_read] at failed
      cases isKey : type.isKey <;> cases isWritable : type.isWritable <;>
        simp [isKey, isWritable] at failed ⊢
    · rw [reads] at failed
      cases failed
    · obtain rfl := Except.error.inj (refused.result_read.symm.trans failed)
      exact .issueTooLong refused ((PartFault.shown_eq_other_iff part).mp isOther)

theorem HasUnusableType.of_writable {entries : Entries} (unusable : IsUnusable (.map entries))
    (areWritable : Value.entriesAreWritable entries = true) : HasUnusableType entries := by
  cases unusable with
  | type isMap unusable => exact Value.map.inj isMap ▸ unusable
  | issueTooLong refused tooLong =>
      rw [refused.shown areWritable] at tooLong
      cases tooLong

theorem part_of_read {raw : Value} {cause : DefinitionFault}
    (failed : (read raw).result = .error (.definition cause)) : ∃ part, cause = .part part := by
  rcases result_read_cases raw with ⟨type, other⟩ | ⟨step, reads⟩ | ⟨part, refused⟩
  · rw [other.result_read] at failed
    split at failed
    · cases failed
    · split at failed <;> cases failed
  · rw [reads] at failed
    cases failed
  · have shown := Except.error.inj (refused.result_read.symm.trans failed)
    rcases part.shown_cases with ⟨_, same⟩ | ⟨_, same⟩
    · exact ⟨part, (Fault.definition.inj (same.symm.trans shown)).symm⟩
    · cases same.symm.trans shown

theorem readAll_eq_error_iff (raws : List Value) (fault : Fault) :
    (readAll raws).result = .error fault ↔
      ∃ before raw after, raws = before ++ raw :: after ∧
        (∀ earlier ∈ before, IsReadable earlier) ∧ (read raw).result = .error fault := by
  induction raws with
  | nil => simp [readAll]
  | cons first rest ih =>
      rw [readAll, Outcome.result_bind]
      cases readFirst : (read first).result with
      | error other =>
          constructor
          · intro failed
            have same : other = fault := Except.error.inj failed
            exact ⟨[], first, rest, rfl, by simp, same ▸ readFirst⟩
          · rintro ⟨before, raw, after, split, readable, failed⟩
            cases before with
            | nil =>
                obtain ⟨rfl, _⟩ := List.cons.inj split
                obtain rfl := Except.error.inj (readFirst.symm.trans failed)
                rfl
            | cons earlier _ =>
                obtain ⟨rfl, _⟩ := List.cons.inj split
                obtain ⟨step, reads⟩ := readable _ List.mem_cons_self
                exact absurd (readFirst.symm.trans reads) (by simp)
      | ok step =>
          have restOnly : (do return step :: (← readAll rest)).result = .error fault ↔
              (readAll rest).result = .error fault := by
            rw [Outcome.result_bind]
            cases (readAll rest).result <;> simp
          refine restOnly.trans (ih.trans ?_)
          constructor
          · rintro ⟨before, raw, after, rfl, readable, failed⟩
            exact ⟨first :: before, raw, after, rfl,
              List.forall_mem_cons.mpr ⟨⟨step, readFirst⟩, readable⟩, failed⟩
          · rintro ⟨before, raw, after, split, readable, failed⟩
            cases before with
            | nil =>
                obtain ⟨rfl, _⟩ := List.cons.inj split
                exact absurd (readFirst.symm.trans failed) (by simp)
            | cons earlier before =>
                obtain ⟨_, rfl⟩ := List.cons.inj split
                exact ⟨before, raw, after, rfl, fun other member =>
                  readable other (List.mem_cons_of_mem earlier member), failed⟩

end FunnelStep

namespace GoalDefinition

theorem ofPart_eq_iff {fault : Fault} (isOther : ∀ cause, fault ≠ .definition cause)
    (other : Fault) : ofPart other = fault ↔ other = fault := by
  cases other with
  | definition cause =>
      cases cause with
      | part part => exact iff_of_false (isOther _).symm (isOther _).symm
      | _ => rfl
  | _ => rfl

theorem checkConsistency_eq_other_iff (definition : GoalDefinition) {fault : Fault}
    (isOther : ∀ cause, fault ≠ .definition cause) :
    definition.checkConsistency.result = .error fault ↔
      (definition.HasKnownTypes ∧ ∃ part,
        Conditions.read definition.goalType definition.conditions.toValue = .error part ∧
          part.shown = fault) ∨
      ∃ before step after, definition.funnelSteps = some (before ++ step :: after) ∧
        IsConsistent { definition with funnelSteps := some before } ∧
        (FunnelStep.read step.toValue).result = .error fault := by
  have onlyParts : definition.partsResult.mapError ofPart = .error fault ↔
      (∃ part, Conditions.read definition.goalType definition.conditions.toValue = .error part ∧
        part.shown = fault) ∨
      ∃ conditions,
        Conditions.read definition.goalType definition.conditions.toValue = .ok conditions ∧
        (FunnelStep.readAll ((definition.funnelSteps.getD []).map Fields.toValue)).result =
          .error fault := by
    unfold partsResult
    cases Conditions.read definition.goalType definition.conditions.toValue with
    | error part => simp [Except.mapError, ofPart_eq_iff isOther]
    | ok conditions =>
        cases (FunnelStep.readAll ((definition.funnelSteps.getD []).map Fields.toValue)).result with
        | ok steps => simp [Except.map, Except.mapError]
        | error other => simp [Except.map, Except.mapError, ofPart_eq_iff isOther]
  rcases definition.result_checkConsistency_cases with ⟨unknown, cause, failed⟩ | ⟨known, result⟩
  · rw [failed]
    refine iff_of_false (fun same => isOther _ (Except.error.inj same).symm) ?_
    rintro (⟨known, _⟩ | ⟨before, step, after, _, consistent, _⟩)
    · exact unknown known
    · exact unknown { consistent with }
  · rw [result, onlyParts]
    constructor
    · rintro (atConditions | ⟨conditions, reads, failed⟩)
      · exact Or.inl ⟨known, atConditions⟩
      obtain ⟨before, raw, after, split, readable, failed⟩ :=
        (FunnelStep.readAll_eq_error_iff _ _).mp failed
      cases isSome : definition.funnelSteps with
      | none => simp [isSome] at split
      | some steps =>
          rw [isSome, Option.getD_some, List.map_eq_append_iff] at split
          obtain ⟨firstSteps, others, rfl, rfl, areOthers⟩ := split
          obtain ⟨step, after, rfl, rfl, rfl⟩ := List.map_eq_cons_iff.mp areOthers
          exact Or.inr ⟨firstSteps, step, after, rfl,
            ⟨{ known with }, ⟨conditions, reads⟩, List.forall_mem_map.mp readable⟩, failed⟩
    · rintro (⟨_, atConditions⟩ | ⟨before, step, after, areSteps, consistent, failed⟩)
      · exact Or.inl atConditions
      obtain ⟨conditions, reads⟩ := consistent.conditions
      refine Or.inr ⟨conditions, reads, (FunnelStep.readAll_eq_error_iff _ _).mpr ?_⟩
      refine ⟨before.map Fields.toValue, step.toValue, after.map Fields.toValue, ?_,
        List.forall_mem_map.mpr consistent.steps, failed⟩
      rw [areSteps, Option.getD_some, List.map_append, List.map_cons]

theorem invalidGoal_of_checkConsistency {definition : GoalDefinition} {cause : DefinitionFault}
    (failed : definition.checkConsistency.result = .error (.definition cause)) :
    ∃ issues, cause = .invalidGoal issues := by
  rcases definition.result_checkConsistency_cases with ⟨_, _, broken⟩ | ⟨_, result⟩
  · exact ⟨_, (Fault.definition.inj (Except.error.inj (broken.symm.trans failed))).symm⟩
  · rw [result] at failed
    have fromPart : ∀ fault, definition.partsResult = .error fault →
        ∀ cause, fault = .definition cause → ∃ part, cause = .part part := by
      rintro _ partsFail cause rfl
      unfold partsResult at partsFail
      split at partsFail
      · rename_i part _
        have shown := Except.error.inj partsFail
        rcases part.shown_cases with ⟨_, same⟩ | ⟨_, same⟩
        · exact ⟨part, (Fault.definition.inj (same.symm.trans shown)).symm⟩
        · cases same.symm.trans shown
      · cases steps : (FunnelStep.readAll
            ((definition.funnelSteps.getD []).map Fields.toValue)).result with
        | ok _ =>
            rw [steps] at partsFail
            contradiction
        | error fault =>
            rw [steps] at partsFail
            obtain rfl : fault = .definition cause := Except.error.inj partsFail
            obtain ⟨_, raw, _, _, _, failedStep⟩ := (FunnelStep.readAll_eq_error_iff _ _).mp steps
            exact FunnelStep.part_of_read failedStep
    cases parts : definition.partsResult with
    | ok _ =>
        rw [parts] at failed
        contradiction
    | error fault =>
        rw [parts] at failed
        have shown : ofPart fault = .definition cause := Except.error.inj failed
        cases fault with
        | definition original =>
            obtain ⟨part, rfl⟩ := fromPart _ parts original rfl
            exact ⟨_, (Fault.definition.inj shown).symm⟩
        | _ => cases shown

/-- What keeps attributes from being either accepted or told what is wrong with them. -/
inductive BreaksOff (attributes : Entries) : Prop where
  | otherKey (hasOther : ¬OnlyNames attributes)
  | issueTooLong {issue : Issue} (onlyNames : OnlyNames attributes)
      (isIssue : issue ∈ (ofEntries attributes).issues ++ unexpected attributes)
      (tooLong : issue.isWritable = false)
  | ruleTooLong {definition : GoalDefinition} (onlyFields : OnlyFields attributes)
      (reads : ofEntries attributes = .valid definition) (breaksRule : ¬definition.IsConsistent)
      (tooLong : Value.entriesAreWritable attributes = false)
  | stepType {definition : GoalDefinition} {before after : List Fields} {step : Fields}
      (onlyFields : OnlyFields attributes) (reads : ofEntries attributes = .valid definition)
      (areSteps : definition.funnelSteps = some (before ++ step :: after))
      (consistentBefore : IsConsistent { definition with funnelSteps := some before })
      (unusable : FunnelStep.HasUnusableType step.toEntries)

theorem refusal_eq_other_iff (isWritable : Bool) (issues : List GoalIssue) :
    (∀ cause, refusal isWritable issues ≠ .definition cause) ↔ isWritable = false := by
  cases isWritable with
  | true => simp [refusal]
  | false => simp [refusal]

theorem breaksOff_of_issues_iff {attributes : Entries} (onlyNames : OnlyNames attributes)
    (fails : ¬((ofEntries attributes).IsValid ∧ OnlyFields attributes)) :
    BreaksOff attributes ↔
      ((ofEntries attributes).issues ++ unexpected attributes).all (·.isWritable) = false := by
  rw [List.all_eq_false]
  constructor
  · intro breaks
    cases breaks with
    | otherKey hasOther => exact absurd onlyNames hasOther
    | issueTooLong _ isIssue tooLong => exact ⟨_, isIssue, by simp [tooLong]⟩
    | ruleTooLong onlyFields reads => exact absurd ⟨⟨_, reads⟩, onlyFields⟩ fails
    | stepType onlyFields reads => exact absurd ⟨⟨_, reads⟩, onlyFields⟩ fails
  · rintro ⟨issue, isIssue, tooLong⟩
    exact .issueTooLong onlyNames isIssue (Bool.not_eq_true _ ▸ tooLong)

theorem breaksOff_of_reads_iff {attributes : Entries} {definition : GoalDefinition}
    (onlyFields : OnlyFields attributes) (reads : ofEntries attributes = .valid definition) :
    BreaksOff attributes ↔
      ∃ fault, definition.checkConsistency.result = .error fault ∧
        ∀ cause, refusalOf attributes fault ≠ .definition cause := by
  have noIssues : (ofEntries attributes).issues ++ unexpected attributes = [] := by
    rw [reads, (unexpected_eq_nil_iff onlyFields.onlyNames).mpr onlyFields]
    rfl
  constructor
  · intro breaks
    cases breaks with
    | otherKey hasOther => exact absurd onlyFields.onlyNames hasOther
    | issueTooLong _ isIssue =>
        rw [noIssues] at isIssue
        contradiction
    | ruleTooLong _ isRead breaksRule tooLong =>
        obtain rfl := Checked.valid.inj (reads.symm.trans isRead)
        cases result : definition.checkConsistency.result with
        | ok _ => exact absurd ((checkConsistency_eq_ok_iff definition).mp result) breaksRule
        | error fault =>
            refine ⟨fault, rfl, fun cause => ?_⟩
            cases fault with
            | definition told =>
                obtain ⟨issues, rfl⟩ := invalidGoal_of_checkConsistency result
                exact (refusal_eq_other_iff _ issues).mpr tooLong cause
            | _ => exact nofun
    | stepType _ isRead areSteps consistentBefore unusable =>
        obtain rfl := Checked.valid.inj (reads.symm.trans isRead)
        obtain ⟨fault, failed, isOther⟩ := unusable.read
        refine ⟨fault, (checkConsistency_eq_other_iff _ isOther).mpr
          (Or.inr ⟨_, _, _, areSteps, consistentBefore, failed⟩), ?_⟩
        cases fault with
        | definition cause => exact absurd rfl (isOther cause)
        | _ => exact isOther
  · rintro ⟨fault, failed, isOther⟩
    have breaksRule : ¬definition.IsConsistent := by
      intro consistent
      rw [(checkConsistency_eq_ok_iff definition).mpr consistent] at failed
      contradiction
    by_cases isDefinition : ∃ cause, fault = .definition cause
    · obtain ⟨cause, rfl⟩ := isDefinition
      obtain ⟨issues, rfl⟩ := invalidGoal_of_checkConsistency failed
      exact .ruleTooLong onlyFields reads breaksRule ((refusal_eq_other_iff _ issues).mp isOther)
    · have notDefinition (cause : DefinitionFault) : fault ≠ .definition cause :=
        fun same => isDefinition ⟨cause, same⟩
      cases areWritable : Value.entriesAreWritable attributes with
      | false => exact .ruleTooLong onlyFields reads breaksRule areWritable
      | true =>
          have isRead := (ofEntries_eq_valid_iff _ _).mp reads
          rcases (checkConsistency_eq_other_iff definition notDefinition).mp failed with
            ⟨_, part, unread, rfl⟩ | ⟨before, step, after, areSteps, consistentBefore, failedStep⟩
          · have isWritable := isWritable_of_conditions areWritable isRead
            exact absurd (Conditions.shown_of_read isWritable unread) (notDefinition _)
          · have isWritable := isWritable_of_step areWritable isRead areSteps step (by simp)
            have unusable := (FunnelStep.isUnusable_iff _).mpr ⟨fault, failedStep, notDefinition⟩
            exact .stepType onlyFields reads areSteps consistentBefore
              (FunnelStep.HasUnusableType.of_writable unusable isWritable)

/-- Validation neither accepts attributes nor tells what is wrong with them exactly when they make it
break off. -/
theorem breaksOff_iff (attributes : Entries) :
    BreaksOff attributes ↔
      ∃ fault, (validate attributes).result = .error fault ∧ ∀ cause, fault ≠ .definition cause := by
  by_cases onlyNames : OnlyNames attributes
  · by_cases passes : (ofEntries attributes).IsValid ∧ OnlyFields attributes
    · obtain ⟨⟨definition, reads⟩, onlyFields⟩ := passes
      rw [breaksOff_of_reads_iff onlyFields reads, result_validate_of_reads onlyFields reads]
      cases definition.checkConsistency.result <;> simp
    · rw [breaksOff_of_issues_iff onlyNames passes, result_validate_of_issues onlyNames passes,
        ← refusal_eq_other_iff _ (((ofEntries attributes).issues ++ unexpected attributes).map .field)]
      simp only [Except.error.injEq, exists_eq_left']
  · rw [result_validate_of_other onlyNames]
    exact iff_of_true (.otherKey onlyNames) ⟨_, rfl, nofun⟩

end GoalDefinition

end ConversionTracking
