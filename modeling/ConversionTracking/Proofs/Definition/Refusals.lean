import ConversionTracking.Proofs.Definition.BreakingOff

/-!
What becomes of a definition or a step that is not as it should be. It is told what is wrong, unless a
type of a step cannot be looked up, a key is no name, or a whole number is too long to be shown.
-/

namespace ConversionTracking

/-- A value of a kind that cannot be used stops the validation, or a number that is too long. -/
inductive Fault.Stops : Fault → Prop where
  | kindMismatch : Stops .kindMismatch
  | tooLongToWrite : Stops (.number .tooLongToWrite)

section

variable {α : Type} {result : Except Fault α}

def IsTold (result : Except Fault α) : Prop :=
  (∃ value, result = .ok value) ∨ ∃ cause, result = .error (.definition cause)

def IsStopped (result : Except Fault α) : Prop := ∃ fault, result = .error fault ∧ fault.Stops

theorem PartFault.stops_of_shown (part : PartFault)
    (isOther : ∀ cause, part.shown ≠ .definition cause) : part.shown.Stops := by
  rcases part.shown_cases with ⟨_, same⟩ | ⟨_, same⟩
  · exact absurd same (isOther _)
  · exact same ▸ .tooLongToWrite

theorem told_or_stopped {breaks : Prop}
    (onlyStops : ∀ fault, result = .error fault → (∀ cause, fault ≠ .definition cause) → fault.Stops)
    (breaks_iff : breaks ↔ ∃ fault, result = .error fault ∧ ∀ cause, fault ≠ .definition cause) :
    (IsTold result ∧ ¬breaks) ∨ (IsStopped result ∧ breaks) := by
  rw [breaks_iff]
  cases result with
  | ok value => exact Or.inl ⟨Or.inl ⟨value, rfl⟩, by simp⟩
  | error fault =>
      by_cases isDefinition : ∃ cause, fault = .definition cause
      · obtain ⟨cause, rfl⟩ := isDefinition
        exact Or.inl ⟨Or.inr ⟨cause, rfl⟩, by simp⟩
      · have isOther (cause : DefinitionFault) : fault ≠ .definition cause :=
          fun same => isDefinition ⟨cause, same⟩
        exact Or.inr ⟨⟨fault, rfl, onlyStops fault rfl isOther⟩, fault, rfl, isOther⟩

end

namespace FunnelStep

theorem result_read_eq_none_iff (raw : Value) :
    (read raw).result = .ok none ↔
      ∃ type, HasOtherType raw type ∧ type.isKey = true ∧ type.isWritable = true := by
  constructor
  · intro isNone
    rcases result_read_cases raw with ⟨type, other⟩ | ⟨step, reads⟩ | ⟨part, refused⟩
    · refine ⟨type, other, ?_⟩
      rw [other.result_read] at isNone
      cases isKey : type.isKey <;> cases isWritable : type.isWritable <;>
        simp [isKey, isWritable] at isNone ⊢
    · rw [reads] at isNone
      cases isNone
    · cases refused.result_read.symm.trans isNone
  · rintro ⟨type, other, isKey, isWritable⟩
    rw [other.result_read, isKey, isWritable]
    rfl

theorem stops_of_read {raw : Value} {fault : Fault} (failed : (read raw).result = .error fault)
    (isOther : ∀ cause, fault ≠ .definition cause) : fault.Stops := by
  rcases result_read_cases raw with ⟨type, other⟩ | ⟨step, reads⟩ | ⟨part, refused⟩
  · rw [other.result_read] at failed
    split at failed
    · exact Except.error.inj failed ▸ .kindMismatch
    · split at failed
      · exact Except.error.inj failed ▸ .tooLongToWrite
      · cases failed
  · rw [reads] at failed
    cases failed
  · obtain rfl := Except.error.inj (refused.result_read.symm.trans failed)
    exact part.stops_of_shown isOther

end FunnelStep

namespace GoalDefinition

theorem stops_of_refusal {isWritable : Bool} {issues : List GoalIssue}
    (isOther : ∀ cause, refusal isWritable issues ≠ .definition cause) :
    (refusal isWritable issues).Stops := by
  rw [(refusal_eq_other_iff isWritable issues).mp isOther]
  exact .tooLongToWrite

theorem stops_of_validate {attributes : Entries} {fault : Fault}
    (failed : (validate attributes).result = .error fault)
    (isOther : ∀ cause, fault ≠ .definition cause) : fault.Stops := by
  by_cases onlyNames : OnlyNames attributes
  · by_cases passes : (ofEntries attributes).IsValid ∧ OnlyFields attributes
    · obtain ⟨⟨definition, reads⟩, onlyFields⟩ := passes
      rw [result_validate_of_reads onlyFields reads] at failed
      cases checked : definition.checkConsistency.result with
      | ok _ =>
          rw [checked] at failed
          cases failed
      | error cause =>
          rw [checked] at failed
          obtain rfl := Except.error.inj failed
          by_cases isDefinition : ∃ told, cause = .definition told
          · obtain ⟨told, rfl⟩ := isDefinition
            obtain ⟨issues, rfl⟩ := invalidGoal_of_checkConsistency checked
            exact stops_of_refusal isOther
          · -- The check stopped at the conditions or at a step.
            have notDefinition (told : DefinitionFault) : cause ≠ .definition told :=
              fun same => isDefinition ⟨told, same⟩
            have stops : cause.Stops := by
              rcases (checkConsistency_eq_other_iff definition notDefinition).mp checked with
                ⟨_, part, _, rfl⟩ | ⟨_, step, _, _, _, atStep⟩
              · exact part.stops_of_shown notDefinition
              · exact FunnelStep.stops_of_read atStep notDefinition
            cases stops with
            | kindMismatch => exact .kindMismatch
            | tooLongToWrite => exact .tooLongToWrite
    · rw [result_validate_of_issues onlyNames passes] at failed
      obtain rfl := Except.error.inj failed
      exact stops_of_refusal isOther
  · rw [result_validate_of_other onlyNames] at failed
    exact Except.error.inj failed ▸ .kindMismatch

section

variable {attributes : Entries}

/-- Everything before a step has passed, and the step has a type that cannot be looked up. -/
inductive StopsAtStep (attributes : Entries) : Prop where
  | intro {definition : GoalDefinition} {before after : List Fields} {step : Fields} {type : Value}
      (onlyFields : OnlyFields attributes) (reads : ofEntries attributes = .valid definition)
      (areSteps : definition.funnelSteps = some (before ++ step :: after))
      (consistentBefore : IsConsistent { definition with funnelSteps := some before })
      (found : step.toEntries.field? "type" = some type) (isGiven : type.isGiven = true)
      (noKey : type.isKey = false)

theorem result_validate_of_stopsAtStep (stops : StopsAtStep attributes) :
    (validate attributes).result = .error .kindMismatch := by
  obtain @⟨_, _, _, _, type, onlyFields, reads, areSteps, consistentBefore, found, isGiven, noKey⟩ :=
    stops
  have isOther (name : String) : type ≠ .text name := by
    rintro rfl
    contradiction
  have failed := FunnelStep.HasOtherType.result_read
    ⟨⟨_, rfl, found⟩, isGiven, isOther "event", isOther "pageview"⟩
  rw [if_pos noKey] at failed
  have stopped := (checkConsistency_eq_other_iff _ (by simp)).mpr
    (Or.inr ⟨_, _, _, areSteps, consistentBefore, failed⟩)
  rw [result_validate_of_reads onlyFields reads, stopped]
  rfl

variable (areWritable : Value.entriesAreWritable attributes = true)

include areWritable

theorem breaksOff_iff_of_writable (onlyNames : OnlyNames attributes) :
    BreaksOff attributes ↔ StopsAtStep attributes := by
  constructor
  · intro breaks
    cases breaks with
    | otherKey hasOther => exact absurd onlyNames hasOther
    | @issueTooLong issue _ isIssue tooLong =>
        have isShown : issue.isWritable = true := by
          rcases List.mem_append.mp isIssue with ofField | isUnexpected
          · exact isShowable_ofEntries areWritable _ ofField
          · exact isWritable_of_unexpected areWritable isUnexpected
        rw [tooLong] at isShown
        contradiction
    | ruleTooLong _ _ _ tooLong =>
        rw [tooLong] at areWritable
        contradiction
    | @stepType definition before after step onlyFields reads areSteps consistentBefore unusable =>
        obtain ⟨type, found, isGiven, noKey | tooLong⟩ := unusable
        · exact ⟨onlyFields, reads, areSteps, consistentBefore, found, isGiven, noKey⟩
        · have isRead := (ofEntries_eq_valid_iff _ _).mp reads
          have isWritable := isWritable_of_step areWritable isRead areSteps step (by simp)
          rw [Entries.isWritable_of_field? isWritable found] at tooLong
          contradiction
  · rintro ⟨onlyFields, reads, areSteps, consistentBefore, found, isGiven, noKey⟩
    exact .stepType onlyFields reads areSteps consistentBefore ⟨_, found, isGiven, Or.inl noKey⟩

theorem told_or_stopsAtStep (onlyNames : OnlyNames attributes) :
    (IsTold (validate attributes).result ∧ ¬StopsAtStep attributes) ∨
      ((validate attributes).result = .error .kindMismatch ∧ StopsAtStep attributes) := by
  by_cases stops : StopsAtStep attributes
  · exact Or.inr ⟨result_validate_of_stopsAtStep stops, stops⟩
  · rw [← breaksOff_iff_of_writable areWritable onlyNames] at stops
    have told := (told_or_stopped (fun _ => stops_of_validate) (breaksOff_iff attributes)).resolve_right
      fun stopped => stops stopped.2
    rw [breaksOff_iff_of_writable areWritable onlyNames] at told
    exact Or.inl told

end

/-- Attributes and steps are accepted or told what is wrong with them, except that a type that is no
key, a key that is no name or a number that is too long to be shown stops the validation. -/
theorem told_unless_broken_off (attributes : Entries) (raw : Value) :
    ((IsTold (validate attributes).result ∧ ¬BreaksOff attributes) ∨
        (IsStopped (validate attributes).result ∧ BreaksOff attributes)) ∧
      ((FunnelStep.read raw).result = .ok none ↔
        ∃ type, FunnelStep.HasOtherType raw type ∧ type.isKey = true ∧ type.isWritable = true) ∧
      ((IsTold (FunnelStep.read raw).result ∧ ¬FunnelStep.IsUnusable raw) ∨
        (IsStopped (FunnelStep.read raw).result ∧ FunnelStep.IsUnusable raw)) := by
  refine ⟨?_, FunnelStep.result_read_eq_none_iff raw, ?_⟩
  · exact told_or_stopped (fun _ => stops_of_validate) (breaksOff_iff attributes)
  · exact told_or_stopped (fun _ => FunnelStep.stops_of_read) (FunnelStep.isUnusable_iff raw)

def listedStep : Value := .map [(.text "type", .list [.text "event"])]

def listedSignup : Entries :=
  [(.text "name", .text "Signup"), (.text "type", .text "event"),
    (.text "funnel_steps", .list [listedStep])]

/-- The list stops the reading of the step and the validation of a goal that has it, and nothing is
told. -/
theorem listed_type_untold :
    ¬IsTold (FunnelStep.read listedStep).result ∧ OnlyNames listedSignup ∧
      ¬IsTold (validate listedSignup).result := by
  have atStep : (FunnelStep.read listedStep).result.map (fun _ => ()) = .error .kindMismatch := by
    decide +kernel
  have atGoal : (validate listedSignup).result.map (fun _ => ()) = .error .kindMismatch := by
    decide +kernel
  have untold {α : Type} {result : Except Fault α}
      (stopped : result.map (fun _ => ()) = .error .kindMismatch) : ¬IsTold result := by
    rintro (⟨_, rfl⟩ | ⟨_, rfl⟩) <;> cases stopped
  refine ⟨untold atStep, ?_, untold atGoal⟩
  simp [OnlyNames, listedSignup]

end GoalDefinition

end ConversionTracking
