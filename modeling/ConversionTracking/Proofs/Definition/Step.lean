import ConversionTracking.Definition.Step
import ConversionTracking.Proofs.Definition.Conditions
import ConversionTracking.Proofs.Store.Database

/-!
What a field of a step is once the criteria are put over the others, and steps that could be read can
still be read from what is stored for them, but for a type that was a tuple and became a list.
-/

namespace ConversionTracking

namespace FunnelStep

theorem overlay_cons_name (outer rest : Entries) (value : Value) :
    overlay outer ((.text "name", value) :: rest) =
      overlay (Entries.insertMissing (Entries.insertMissing outer "event_name" value) "name" value)
        rest := rfl

theorem overlay_cons {key : Value} (isOther : key ≠ .text "name") (outer rest : Entries)
    (value : Value) :
    overlay outer ((key, value) :: rest) = overlay (Entries.insert outer key value) rest := by
  unfold overlay
  rw [List.foldl_cons]
  congr 1
  split
  · contradiction
  · rfl

theorem field?_overlay (outer criteria : Entries) (name : String) :
    Entries.field? (overlay outer criteria) name =
      if name = "name" then (outer.field? "name").or (criteria.field? "name")
      else if name = "event_name" then
        (Entries.field? criteria.reverse "event_name").or
          ((outer.field? "event_name").or (criteria.field? "name"))
      else (Entries.field? criteria.reverse name).or (outer.field? name) := by
  induction criteria generalizing outer with
  | nil => by_cases isName : name = "name" <;> by_cases isEvent : name = "event_name" <;>
      simp [overlay, isName, isEvent]
  | cons criterion rest ih =>
      obtain ⟨key, value⟩ := criterion
      rw [List.reverse_cons, Entries.field?_append, Entries.field?_append, Entries.field?_cons,
        Entries.field?_cons, Entries.field?_cons]
      by_cases isNameKey : key = .text "name"
      · subst isNameKey
        rw [overlay_cons_name, ih]
        simp only [Entries.field?_insertMissing, Value.text_equals_text]
        by_cases isName : name = "name"
        · simp [isName]
        · have differ : "name" ≠ name := fun same => isName same.symm
          by_cases isEvent : name = "event_name"
          · simp [isEvent]
          · have eventDiffers : "event_name" ≠ name := fun same => isEvent same.symm
            simp [isName, isEvent, differ, eventDiffers]
      · have notName : key.equals (.text "name") = false := by
          rw [Bool.eq_false_iff]
          exact mt (Value.equals_text_iff key "name").mp isNameKey
        rw [overlay_cons isNameKey, ih]
        simp only [Entries.field?_insert, notName]
        by_cases isName : name = "name"
        · simp [isName]
        · by_cases isEvent : name = "event_name"
          · cases key.equals (.text "event_name") <;> simp [isEvent]
          · cases key.equals (.text name) <;> simp [isName, isEvent]

end FunnelStep

namespace Entries

open Column

variable {entries contents : Entries}

theorem HeldBy.field (held : entries.HeldBy contents) (name : String)
    (isPlain : Value.isPlainName name = true) :
    Holds (entries.field name) (contents.field name) :=
  Option.Rel.getD (held name isPlain) .null

theorem HeldBy.insertField (held : entries.HeldBy contents) (name : String) {value content : Value}
    (holds : Holds value content) :
    (entries.insertField name value).HeldBy (contents.insertField name content) := by
  intro other isPlain
  rw [field?_insertField, field?_insertField]
  split
  · exact .some holds
  · exact held other isPlain

theorem HeldBy.without (held : entries.HeldBy contents) (other : String) :
    HeldBy (List.filter (fun entry => !entry.1.equals (.text other)) entries)
      (List.filter (fun entry => !entry.1.equals (.text other)) contents) := by
  intro name isPlain
  rw [field?_filter_ne, field?_filter_ne]
  split
  · exact .none
  · exact held name isPlain

theorem HeldBy.overlay {criteria kept : Entries} (held : entries.HeldBy contents)
    (criteriaHeld : criteria.HeldBy kept) (once : (names criteria).Nodup)
    (keptOnce : (names kept).Nodup) :
    HeldBy (FunnelStep.overlay entries criteria) (FunnelStep.overlay contents kept) := by
  intro name isPlain
  have ownName := criteriaHeld "name" (by decide)
  rw [FunnelStep.field?_overlay, FunnelStep.field?_overlay]
  simp only [field?_reverse once, field?_reverse keptOnce]
  split
  · exact Option.Rel.or (held "name" (by decide)) ownName
  · split
    · have eventName := Option.Rel.or (held "event_name" (by decide)) ownName
      exact Option.Rel.or (criteriaHeld "event_name" (by decide)) eventName
    · exact Option.Rel.or (criteriaHeld name isPlain) (held name isPlain)

end Entries

namespace FunnelStep

open Column

theorem flatten_of_not_map {entries : Entries}
    (notMap : ∀ criteria, entries.field "criteria" ≠ .map criteria) : flatten entries = entries := by
  unfold flatten
  split
  · rename_i criteria isMap
    exact absurd isMap (notMap criteria)
  · rfl

theorem flatten_of_map {entries criteria : Entries} (isMap : entries.field "criteria" = .map criteria) :
    flatten entries =
      overlay (List.filter (fun entry => !entry.1.equals (.text "criteria")) entries)
        (Entries.ofList criteria) := by
  unfold flatten
  rw [isMap]

theorem flatten_heldBy {entries contents : Entries} (held : entries.HeldBy contents) :
    (flatten entries).HeldBy (flatten contents) := by
  have holds := held.field "criteria" (by decide)
  by_cases isMap : ∃ criteria, entries.field "criteria" = .map criteria
  · obtain ⟨criteria, isMap⟩ := isMap
    rw [isMap] at holds
    obtain ⟨fields, distinct, isKept, criteriaHeld⟩ := holds.of_map
    have keptOnce : (Entries.names fields.toEntries).Nodup := by
      rw [Fields.names_toEntries]
      exact distinct
    have isKeptMap : contents.field "criteria" = .map fields.toEntries := isKept
    rw [flatten_of_map isMap, flatten_of_map isKeptMap, Fields.ofList_toEntries,
      Fields.ofList_of_distinct distinct]
    exact (held.without "criteria").overlay criteriaHeld (Entries.distinct_ofList criteria) keptOnce
  · have notMap := not_exists.mp isMap
    rw [flatten_of_not_map notMap, flatten_of_not_map]
    · exact held
    · intro kept isKept
      rw [isKept] at holds
      obtain ⟨criteria, isCriteria, _⟩ := holds.map_of_map
      exact notMap criteria isCriteria

theorem givenType_heldBy {entries contents : Entries} (held : entries.HeldBy contents) :
    Holds (givenType entries) (givenType contents) := by
  have holds := held.field "type" (by decide)
  unfold givenType
  dsimp only
  rw [holds.isGiven_eq]
  split
  · exact holds
  · exact .text "event"

def typed (entries : Entries) : Entries :=
  flatten (entries.insertField "type" (givenType entries))

theorem typed_heldBy {entries contents : Entries} (held : entries.HeldBy contents) :
    (typed entries).HeldBy (typed contents) :=
  flatten_heldBy (held.insertField "type" (givenType_heldBy held))

theorem result_checkedStep (checked : Checked FunnelStep) (step : Option FunnelStep) :
    (checkedStep checked).result = .ok step ↔ ∃ value, checked = .valid value ∧ step = some value := by
  cases checked with
  | valid value => simp [checkedStep, eq_comm]
  | invalid issues => simp [checkedStep, Outcome.fail]

section

variable {entries : Entries}

theorem read_event (isEvent : givenType entries = .text "event") :
    read (.map entries) = checkedStep (eventOf (typed entries)) := by
  simp only [read, typed, isEvent]

theorem read_pageView (isPageView : givenType entries = .text "pageview") :
    read (.map entries) = checkedStep (pageViewOf (typed entries)) := by
  simp only [read, typed, isPageView]

theorem read_other (notEvent : givenType entries ≠ .text "event")
    (notPageView : givenType entries ≠ .text "pageview") :
    read (.map entries) =
      if !(givenType entries).isKey then .fail .kindMismatch
      else if !(givenType entries).isWritable then .fail (.number .tooLongToWrite)
      else do
        Outcome.note .stepTypeUnknown
        return none := by
  unfold read
  dsimp only
  split
  · contradiction
  · contradiction
  · rfl

end

theorem isValid_eventOf_iff (entries : Entries) :
    (eventOf entries).IsValid ↔
      (entries.optional "name" FieldKind.text).IsValid ∧
        (entries.withDefault "type" () (FieldKind.choice "event")).IsValid ∧
        (entries.optional "event_name" FieldKind.text).IsValid ∧
        (entries.optional "event_category" FieldKind.text).IsValid ∧
        (entries.withDefault "property_matches" [] FieldKind.fields).IsValid := by
  simp only [eventOf, Checked.isValid_seq_iff, Checked.isValid_map_iff, and_assoc]

theorem isValid_pageViewOf_iff (entries : Entries) :
    (pageViewOf entries).IsValid ↔
      (entries.optional "name" FieldKind.text).IsValid ∧
        (entries.required "type" (FieldKind.choice "pageview")).IsValid ∧
        (entries.optional "path_exact" FieldKind.text).IsValid ∧
        (entries.optional "path" FieldKind.text).IsValid ∧
        (entries.optional "path_pattern" FieldKind.text).IsValid ∧
        (entries.optional "path_regex" FieldKind.text).IsValid ∧
        (entries.optional "path_contains" FieldKind.text).IsValid := by
  simp only [pageViewOf, Checked.isValid_seq_iff, Checked.isValid_map_iff, and_assoc]

section

variable {entries contents : Entries} (held : entries.HeldBy contents)

include held

theorem isValid_eventOf_of_heldBy (isValid : (eventOf entries).IsValid) :
    (eventOf contents).IsValid := by
  rw [isValid_eventOf_iff] at isValid ⊢
  obtain ⟨name, type, eventName, category, properties⟩ := isValid
  have keepsText (value content : Value) (holds : Holds value content) :=
    FieldKind.isValid_text_of_holds holds
  exact ⟨held.isValid_optional (by decide) keepsText name,
    held.isValid_withDefault (by decide)
      (fun _ _ => FieldKind.isValid_choice_of_holds "event") type,
    held.isValid_optional (by decide) keepsText eventName,
    held.isValid_optional (by decide) keepsText category,
    held.isValid_withDefault (by decide) (fun _ _ => FieldKind.isValid_fields_of_holds) properties⟩

theorem isValid_pageViewOf_of_heldBy (isValid : (pageViewOf entries).IsValid) :
    (pageViewOf contents).IsValid := by
  rw [isValid_pageViewOf_iff] at isValid ⊢
  obtain ⟨name, type, pathExact, path, pattern, regex, contains⟩ := isValid
  have keepsText (value content : Value) (holds : Holds value content) :=
    FieldKind.isValid_text_of_holds holds
  refine ⟨held.isValid_optional (by decide) keepsText name, ?_,
    held.isValid_optional (by decide) keepsText pathExact,
    held.isValid_optional (by decide) keepsText path,
    held.isValid_optional (by decide) keepsText pattern,
    held.isValid_optional (by decide) keepsText regex,
    held.isValid_optional (by decide) keepsText contains⟩
  rw [Entries.isValid_required_iff] at type ⊢
  obtain ⟨value, isThere, chosen⟩ := type
  obtain ⟨content, found, holds⟩ := held.exists_content (by decide) isThere
  exact ⟨content, found, FieldKind.isValid_choice_of_holds "pageview" holds chosen⟩

end

def IsReadable (raw : Value) : Prop := ∃ step, (read raw).result = .ok step

theorem isReadable_map_iff (entries : Entries) :
    IsReadable (.map entries) ↔
      (givenType entries = .text "event" ∧ (eventOf (typed entries)).IsValid) ∨
      (givenType entries = .text "pageview" ∧ (pageViewOf (typed entries)).IsValid) ∨
      (givenType entries ≠ .text "event" ∧ givenType entries ≠ .text "pageview" ∧
        (givenType entries).isKey = true ∧ (givenType entries).isWritable = true) := by
  have checkedIsReadable (checked : Checked FunnelStep) :
      (∃ step, (checkedStep checked).result = .ok step) ↔ checked.IsValid := by
    simp only [result_checkedStep]
    exact ⟨fun ⟨_, value, isValid, _⟩ => ⟨value, isValid⟩, fun ⟨value, isValid⟩ =>
      ⟨some value, value, isValid, rfl⟩⟩
  unfold IsReadable
  by_cases isEvent : givenType entries = .text "event"
  · simp [read_event isEvent, checkedIsReadable, isEvent]
  · by_cases isPageView : givenType entries = .text "pageview"
    · simp [read_pageView isPageView, checkedIsReadable, isPageView]
    · rw [read_other isEvent isPageView]
      cases (givenType entries).isKey <;> cases (givenType entries).isWritable <;>
        simp [isEvent, isPageView, Outcome.fail, Outcome.result_bind]

theorem field_of_givenType {entries : Entries} {type : Value} (isType : givenType entries = type)
    (notText : type ≠ .text "event") :
    entries.field? "type" = some type ∧ type.isGiven = true := by
  unfold givenType at isType
  dsimp only at isType
  split at isType
  · rename_i isGiven
    rw [isType] at isGiven
    refine ⟨?_, isGiven⟩
    rw [Entries.field_eq] at isType
    cases found : entries.field? "type" with
    | none =>
        rw [found] at isType
        rw [← isType] at isGiven
        contradiction
    | some value =>
        rw [found] at isType
        exact congrArg some isType
  · exact absurd isType.symm notText

def HasListedType (raw : Value) : Prop :=
  ∃ (entries : Entries) (first : Value) (rest : List Value), raw = .map entries ∧
    entries.field? "type" = some (.list (first :: rest))

theorem not_isReadable_of_listedType {raw : Value} (listed : HasListedType raw) :
    ¬IsReadable raw := by
  obtain ⟨entries, first, rest, rfl, found⟩ := listed
  have isList : givenType entries = .list (first :: rest) := by
    simp [givenType, Entries.field_eq, found, Value.isGiven]
  rw [isReadable_map_iff, isList]
  simp [Value.isKey]

theorem isReadable_of_holds {fields : Fields} (distinct : fields.Distinct) {content : Value}
    (holds : Holds fields.toValue content) (readable : IsReadable fields.toValue) :
    IsReadable content ∨ HasListedType content := by
  obtain ⟨contents, _, rfl, held⟩ := holds.of_toValue distinct
  have typeHeld := givenType_heldBy held
  rw [Fields.toValue_eq, isReadable_map_iff] at readable ⊢
  rcases readable with ⟨isEvent, reads⟩ | ⟨isPageView, reads⟩ | ⟨notEvent, notPageView, isKey, _⟩
  · exact Or.inl (Or.inl ⟨(typeHeld.eq_text_iff "event").mpr isEvent,
      isValid_eventOf_of_heldBy (typed_heldBy held) reads⟩)
  · exact Or.inl (Or.inr (Or.inl ⟨(typeHeld.eq_text_iff "pageview").mpr isPageView,
      isValid_pageViewOf_of_heldBy (typed_heldBy held) reads⟩))
  · have storedNotEvent := mt (typeHeld.eq_text_iff "event").mp notEvent
    have storedNotPageView := mt (typeHeld.eq_text_iff "pageview").mp notPageView
    have isDocument := typeHeld.isDocument
    cases isStored : givenType contents.toEntries with
    | list items =>
        obtain ⟨isType, isGiven⟩ := field_of_givenType isStored (by simp)
        cases items with
        | nil => contradiction
        | cons first rest => exact Or.inr ⟨contents.toEntries, first, rest, rfl, isType⟩
    | map entries =>
        rw [isStored] at typeHeld
        obtain ⟨others, isMap, _⟩ := typeHeld.map_of_map
        rw [isMap] at isKey
        contradiction
    | int whole =>
        rw [isStored] at isDocument storedNotEvent storedNotPageView
        simp only [Value.IsDocument, Value.document?, Option.ite_none_right_eq_some] at isDocument
        exact Or.inl (Or.inr (Or.inr ⟨storedNotEvent, storedNotPageView, rfl, isDocument.1⟩))
    | null | bool _ | float _ | text _ =>
        rw [isStored] at storedNotEvent storedNotPageView
        exact Or.inl (Or.inr (Or.inr ⟨storedNotEvent, storedNotPageView, rfl, rfl⟩))
    | _ => simp [isStored, Value.IsDocument, Value.document?] at isDocument

end FunnelStep

end ConversionTracking
