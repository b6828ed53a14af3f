import ConversionTracking.Proofs.Definition.Goal

/-!
Attributes, conditions and steps that can be written out. Whatever is wrong with them can be shown.
-/

namespace ConversionTracking

namespace Value

theorem areWritable_iff (items : List Value) :
    areWritable items = true ↔ ∀ item ∈ items, item.isWritable = true := by
  induction items with
  | nil => simp [areWritable]
  | cons item rest ih => simp [areWritable, ih]

theorem entriesAreWritable_iff (entries : List (Value × Value)) :
    entriesAreWritable entries = true ↔
      ∀ entry ∈ entries, entry.1.isWritable = true ∧ entry.2.isWritable = true := by
  induction entries with
  | nil => simp [entriesAreWritable]
  | cons entry rest ih => simp [entriesAreWritable, ih]

end Value

namespace Checked

variable {α β : Type}

def IsShowable (checked : Checked α) : Prop := ∀ issue ∈ checked.issues, issue.isWritable = true

theorem isShowable_valid (value : α) : (Checked.valid value).IsShowable := by
  simp [IsShowable, issues]

theorem isShowable_refuse {value : Value} (isWritable : value.isWritable = true)
    (problem : Problem) : (refuse value problem : Checked α).IsShowable := by
  intro issue isIssue
  obtain rfl := List.mem_singleton.mp isIssue
  exact isWritable

theorem isShowable_ofReading {value : Value} (isWritable : value.isWritable = true)
    (reading : Except Problem α) : (ofReading value reading).IsShowable := by
  cases reading with
  | ok result => exact isShowable_valid result
  | error problem => exact isShowable_refuse isWritable problem

variable {checked : Checked α}

theorem IsShowable.map (showable : checked.IsShowable) (change : α → β) :
    (change <$> checked).IsShowable := by
  cases checked with
  | valid value => exact isShowable_valid (change value)
  | invalid issues => exact showable

theorem IsShowable.seq {change : Checked (α → β)} (first : change.IsShowable)
    (showable : checked.IsShowable) : (change <*> checked).IsShowable := by
  cases change with
  | valid function =>
      cases checked with
      | valid value => exact isShowable_valid (function value)
      | invalid issues => exact showable
  | invalid firstIssues =>
      cases checked with
      | valid value => exact first
      | invalid issues =>
          intro issue isIssue
          rcases List.mem_append.mp isIssue with isFirst | isSecond
          · exact first issue isFirst
          · exact showable issue isSecond

theorem IsShowable.within (showable : checked.IsShowable) (place : Place) :
    (checked.within place).IsShowable := by
  cases checked with
  | valid value => exact isShowable_valid value
  | invalid issues =>
      intro issue isIssue
      obtain ⟨inner, isInner, rfl⟩ := List.mem_map.mp isIssue
      exact showable inner isInner

end Checked

namespace FieldKind

def Shows {α : Type} (check : Value → Checked α) : Prop :=
  ∀ value, value.isWritable = true → (check value).IsShowable

theorem shows_text : Shows text := by
  intro value isWritable
  unfold text
  split
  · exact Checked.isShowable_valid _
  · exact Checked.isShowable_refuse isWritable _

theorem shows_whole : Shows whole := fun _ isWritable => Checked.isShowable_ofReading isWritable _

theorem shows_number : Shows number := fun _ isWritable => Checked.isShowable_ofReading isWritable _

theorem shows_truth : Shows truth := fun _ isWritable => Checked.isShowable_ofReading isWritable _

theorem shows_name : Shows name := by
  intro value isWritable
  have ofText := shows_text value isWritable
  unfold name
  split
  · rename_i issues isInvalid
    rw [isInvalid] at ofText
    exact ofText
  · split
    · exact Checked.isShowable_refuse isWritable _
    · split
      · exact Checked.isShowable_refuse isWritable _
      · exact Checked.isShowable_valid _

theorem shows_optional {α : Type} {check : Value → Checked α} (shows : Shows check) :
    Shows (optional check) := by
  intro value isWritable
  unfold optional
  split
  · exact Checked.isShowable_valid _
  · exact (shows value isWritable).map some

theorem shows_choice (expected : String) : Shows (choice expected) := by
  intro value isWritable
  unfold choice
  split
  · split
    · exact Checked.isShowable_valid ()
    · exact Checked.isShowable_refuse isWritable _
  · exact Checked.isShowable_refuse isWritable _

theorem shows_fields : Shows fields := by
  have ofNamed (pairs : List (Value × Value)) (areWritable : Value.entriesAreWritable pairs = true) :
      (named pairs).IsShowable := by
    rw [Value.entriesAreWritable_iff] at areWritable
    induction pairs with
    | nil => exact Checked.isShowable_valid []
    | cons pair rest ih =>
        obtain ⟨⟨keyWritable, _⟩, restWritable⟩ := List.forall_mem_cons.mp areWritable
        have ofKey : (fieldName pair.1).IsShowable :=
          ((shows_text pair.1 keyWritable).within _).within _
        exact (ofKey.map _).seq (ih restWritable)
  intro value isWritable
  cases value with
  | map pairs => exact (ofNamed pairs isWritable).map Fields.ofList
  | _ => exact Checked.isShowable_refuse isWritable _

theorem shows_items {α : Type} {check : Value → Checked α} (shows : Shows check) :
    Shows (items check) := by
  have ofEach (position : Nat) (values : List Value)
      (areWritable : ∀ value ∈ values, value.isWritable = true) :
      (each check position values).IsShowable := by
    induction values generalizing position with
    | nil => exact Checked.isShowable_valid []
    | cons value rest ih =>
        obtain ⟨isWritable, restWritable⟩ := List.forall_mem_cons.mp areWritable
        exact (((shows value isWritable).within _).map _).seq (ih (position + 1) restWritable)
  intro value isWritable
  cases value with
  | list values | tuple values | set values =>
      exact ofEach 0 values ((Value.areWritable_iff values).mp isWritable)
  | _ => exact Checked.isShowable_refuse isWritable _

end FieldKind

namespace Entries

variable {α : Type} {entries : Entries} {check : Value → Checked α}
  (areWritable : Value.entriesAreWritable entries = true) (shows : FieldKind.Shows check)

include areWritable

theorem isWritable_of_field? {name : String} {value : Value}
    (found : entries.field? name = some value) : value.isWritable = true :=
  ((Value.entriesAreWritable_iff entries).mp areWritable _ (mem_of_field? found)).2

include shows

theorem isShowable_required (name : String) : (entries.required name check).IsShowable := by
  unfold required
  split
  · rename_i value found
    exact (shows value (isWritable_of_field? areWritable found)).within _
  · have isWritable : (Value.map entries).isWritable = true := areWritable
    exact (Checked.isShowable_refuse isWritable _).within _

theorem isShowable_withDefault (name : String) (missing : α) :
    (entries.withDefault name missing check).IsShowable := by
  unfold withDefault
  split
  · rename_i value found
    exact (shows value (isWritable_of_field? areWritable found)).within _
  · exact Checked.isShowable_valid _

theorem isShowable_optional (name : String) : (entries.optional name check).IsShowable :=
  isShowable_withDefault areWritable (FieldKind.shows_optional shows) name none

end Entries

namespace Conditions

theorem isShowable_ofEntries {entries : Entries}
    (areWritable : Value.entriesAreWritable entries = true) (goalType : GoalType) :
    (ofEntries goalType entries).IsShowable := by
  have optional {α : Type} {check : Value → Checked α} (shows : FieldKind.Shows check)
      (name : String) : (entries.optional name check).IsShowable :=
    Entries.isShowable_optional areWritable shows name
  cases goalType with
  | event =>
      exact Checked.IsShowable.map (.seq (.seq (.seq (.map (optional FieldKind.shows_text _) _)
        (optional FieldKind.shows_text _)) (optional FieldKind.shows_number _))
        (Entries.isShowable_withDefault areWritable FieldKind.shows_fields _ _)) _
  | pageView =>
      exact Checked.IsShowable.map (.seq (.seq (.seq (.map (optional FieldKind.shows_text _) _)
        (optional FieldKind.shows_text _)) (optional FieldKind.shows_text _))
        (optional FieldKind.shows_text _)) _
  | duration => exact (Entries.isShowable_required areWritable FieldKind.shows_number _).map _
  | pagesPerSession =>
      exact (Entries.isShowable_required areWritable FieldKind.shows_whole _).map _

theorem shown_of_read {typeName : String} {raw : Value} (isWritable : raw.isWritable = true)
    {fault : PartFault} (failed : read typeName raw = .error fault) :
    fault.shown = .definition (.part fault) := by
  unfold read at failed
  split at failed
  · obtain rfl := Except.error.inj failed
    rfl
  · rename_i goalType _
    dsimp only at failed
    split at failed
    · obtain rfl := Except.error.inj failed
      rfl
    · rename_i entries areEntries
      have areWritable : Value.entriesAreWritable entries = true := by
        cases raw with
        | null => exact Option.some.inj areEntries ▸ rfl
        | map contents => exact Option.some.inj areEntries ▸ isWritable
        | _ => cases areEntries
      have showable := isShowable_ofEntries areWritable goalType
      split at failed
      · cases failed
      · rename_i issues isInvalid
        rw [isInvalid] at showable
        obtain rfl := Except.error.inj failed
        exact if_pos (List.all_eq_true.mpr showable)

end Conditions

namespace FunnelStep

section

variable {entries : Entries} (areWritable : Value.entriesAreWritable entries = true)

include areWritable

theorem entriesAreWritable_overlay {criteria : Entries}
    (criteriaWritable : Value.entriesAreWritable criteria = true) :
    Value.entriesAreWritable (overlay entries criteria) = true := by
  rw [Value.entriesAreWritable_iff] at *
  induction criteria generalizing entries with
  | nil => exact areWritable
  | cons criterion rest ih =>
      obtain ⟨⟨keyWritable, valueWritable⟩, restWritable⟩ :=
        List.forall_mem_cons.mp criteriaWritable
      refine ih ?_ restWritable
      dsimp only
      split
      · -- A name counts as the name of the event too.
        exact Entries.forall_insertMissing (·.isWritable = true) (·.isWritable = true)
          (Entries.forall_insertMissing (·.isWritable = true) (·.isWritable = true) areWritable rfl
            valueWritable) rfl valueWritable
      · exact Entries.forall_insert (·.isWritable = true) (·.isWritable = true) areWritable
          keyWritable valueWritable

theorem entriesAreWritable_typed : Value.entriesAreWritable (typed entries) = true := by
  have typeWritable : (givenType entries).isWritable = true := by
    unfold givenType
    dsimp only
    split
    · rw [Entries.field_eq]
      cases found : entries.field? "type" with
      | none => rfl
      | some type => exact Entries.isWritable_of_field? areWritable found
    · rfl
  have withType : Value.entriesAreWritable (entries.insertField "type" (givenType entries)) = true := by
    rw [Value.entriesAreWritable_iff] at *
    exact Entries.forall_insert (·.isWritable = true) (·.isWritable = true) areWritable rfl
      typeWritable
  unfold typed flatten
  split
  · rename_i criteria isMap
    have criteriaWritable : (Value.map criteria).isWritable = true := by
      rw [Entries.field_eq] at isMap
      cases found : (entries.insertField "type" (givenType entries)).field? "criteria" with
      | none => simp [found] at isMap
      | some value =>
          rw [found, Option.getD_some] at isMap
          exact isMap ▸ Entries.isWritable_of_field? withType found
    refine entriesAreWritable_overlay ?_ ?_
    · rw [Value.entriesAreWritable_iff] at *
      exact fun entry member => withType entry (List.mem_of_mem_filter member)
    · rw [Value.entriesAreWritable_iff]
      exact Entries.forall_ofList (·.isWritable = true) (·.isWritable = true)
        ((Value.entriesAreWritable_iff criteria).mp criteriaWritable)
  · exact withType

theorem isShowable_eventOf : (eventOf entries).IsShowable := by
  have optional (name : String) : (entries.optional name FieldKind.text).IsShowable :=
    Entries.isShowable_optional areWritable FieldKind.shows_text name
  exact Checked.IsShowable.seq (.seq (.seq (.seq (.map (optional _) _)
    (Entries.isShowable_withDefault areWritable (FieldKind.shows_choice _) _ _)) (optional _))
    (optional _)) (Entries.isShowable_withDefault areWritable FieldKind.shows_fields _ _)

theorem isShowable_pageViewOf : (pageViewOf entries).IsShowable := by
  have optional (name : String) : (entries.optional name FieldKind.text).IsShowable :=
    Entries.isShowable_optional areWritable FieldKind.shows_text name
  exact Checked.IsShowable.seq (.seq (.seq (.seq (.seq (.seq (.map (optional _) _)
    (Entries.isShowable_required areWritable (FieldKind.shows_choice _) _)) (optional _))
    (optional _)) (optional _)) (optional _)) (optional _)

end

end FunnelStep

theorem FieldKind.isWritable_of_fields {value : Value} (isWritable : value.isWritable = true)
    {contents : Fields} (reads : FieldKind.fields value = .valid contents) :
    contents.toValue.isWritable = true := by
  have ofFields := FieldKind.forall_of_fields (fun value => value.isWritable = true) reads (by
    rintro pairs rfl pair isPair
    exact ((Value.entriesAreWritable_iff pairs).mp isWritable pair isPair).2)
  refine (Value.entriesAreWritable_iff _).mpr fun entry member => ?_
  obtain ⟨field, isField, rfl⟩ := List.mem_map.mp member
  exact ⟨rfl, ofFields field isField⟩

namespace GoalDefinition

variable {attributes : Entries} (areWritable : Value.entriesAreWritable attributes = true)

include areWritable

theorem isShowable_ofEntries : (ofEntries attributes).IsShowable := by
  unfold ofEntries
  have optional {α : Type} {check : Value → Checked α} (shows : FieldKind.Shows check)
      (name : String) : (attributes.optional name check).IsShowable :=
    Entries.isShowable_optional areWritable shows name
  have withDefault {α : Type} {check : Value → Checked α} (shows : FieldKind.Shows check)
      (name : String) (missing : α) : (attributes.withDefault name missing check).IsShowable :=
    Entries.isShowable_withDefault areWritable shows name missing
  refine Checked.IsShowable.seq (.seq (.seq (.seq (.seq (.seq (.seq (.seq (.seq (.seq (.seq (.map
    ?name _) ?goalType) ?description) ?conditions) ?valueType) ?fixedValue) ?dynamicPath)
    ?allowMultiple) ?isActive) ?funnelSteps) ?siteId) ?tenantId
  case name => exact Entries.isShowable_required areWritable FieldKind.shows_name "name"
  case goalType => exact Entries.isShowable_required areWritable FieldKind.shows_text "type"
  case description | dynamicPath | tenantId => exact optional FieldKind.shows_text _
  case conditions => exact withDefault FieldKind.shows_fields _ _
  case valueType => exact withDefault FieldKind.shows_text _ _
  case fixedValue => exact optional FieldKind.shows_number _
  case allowMultiple | isActive => exact withDefault FieldKind.shows_truth _ _
  case funnelSteps => exact optional (FieldKind.shows_items FieldKind.shows_fields) _
  case siteId => exact optional FieldKind.shows_whole _

theorem isWritable_of_unexpected {issue : Issue} (isIssue : issue ∈ unexpected attributes) :
    issue.isWritable = true := by
  obtain ⟨entry, member, isShown⟩ := List.mem_filterMap.mp isIssue
  split at isShown
  · split at isShown
    · contradiction
    · obtain rfl := Option.some.inj isShown
      exact ((Value.entriesAreWritable_iff attributes).mp areWritable entry member).2
  · contradiction

theorem isWritable_of_conditions {definition : GoalDefinition}
    (reads : definition.IsReadFrom attributes) : definition.conditions.toValue.isWritable = true := by
  rcases (Entries.withDefault_eq_valid_iff _ _ _ _ _).mp reads.conditions with
    ⟨_, isDefault⟩ | ⟨value, found, readsConditions⟩
  · rw [← isDefault]
    rfl
  · exact FieldKind.isWritable_of_fields (Entries.isWritable_of_field? areWritable found) readsConditions

theorem isWritable_of_step {definition : GoalDefinition} (reads : definition.IsReadFrom attributes)
    {steps : List Fields} (areSteps : definition.funnelSteps = some steps) :
    ∀ step ∈ steps, step.toValue.isWritable = true := by
  intro step isStep
  rcases (Entries.optional_eq_valid_iff _ _ _ _).mp reads.funnelSteps with
    ⟨_, isNone⟩ | ⟨value, content, found, _, readsSteps, isSome⟩
  · rw [areSteps] at isNone
    contradiction
  · obtain rfl := Option.some.inj (isSome.symm.trans areSteps)
    have isWritable := Entries.isWritable_of_field? areWritable found
    obtain ⟨values, areValues, areRead⟩ := FieldKind.exists_value_of_items readsSteps
    obtain ⟨item, isItem, readsItem⟩ := areRead step isStep
    have itemWritable : item.isWritable = true := by
      rcases areValues with rfl | rfl | rfl
      all_goals exact (Value.areWritable_iff values).mp isWritable item isItem
    exact FieldKind.isWritable_of_fields itemWritable readsItem

end GoalDefinition

end ConversionTracking
