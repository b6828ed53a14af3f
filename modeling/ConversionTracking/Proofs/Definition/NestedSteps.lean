import ConversionTracking.Proofs.Definition.Step

/-!
Steps whose criteria stand in a map of their own. Such a step is read as the flat step that has the
criteria among its other fields, and neither form depends on the order in which fields are given.
-/

namespace ConversionTracking

namespace Entries

def Agree (first second : Entries) : Prop := ∀ name, field? first name = field? second name

theorem agree_of_perm {first second : Entries} (perm : first.Perm second)
    (once : (names first).Nodup) : first.Agree second := by
  intro name
  apply Option.ext
  intro value
  rw [field?_eq_some_iff once, field?_eq_some_iff ((perm.filterMap _).nodup_iff.mp once),
    perm.mem_iff]

section

variable {α : Type} {first second : Entries} (agree : first.Agree second) (name : String)

include agree

theorem Agree.withDefault (missing : α) (check : Value → Checked α) :
    first.withDefault name missing check = second.withDefault name missing check := by
  rw [Entries.withDefault, Entries.withDefault, agree name]

theorem Agree.optional (check : Value → Checked α) :
    first.optional name check = second.optional name check := agree.withDefault name none _

theorem Agree.required {value : Value} (found : first.field? name = some value)
    (check : Value → Checked α) : first.required name check = second.required name check := by
  rw [Entries.required, Entries.required, ← agree name, found]

end

end Entries

namespace FunnelStep

section

variable {first second : Entries} (agree : first.Agree second)

include agree

theorem eventOf_of_agree : eventOf first = eventOf second := by
  simp only [eventOf, agree.optional, agree.withDefault]

theorem pageViewOf_of_agree {type : Value} (found : first.field? "type" = some type) :
    pageViewOf first = pageViewOf second := by
  simp only [pageViewOf, agree.optional, agree.required "type" found]

end

theorem givenType_of_field? {first second : Entries}
    (sameField : first.field? "type" = second.field? "type") : givenType first = givenType second := by
  have sameType : first.field "type" = second.field "type" := by
    rw [Entries.field_eq, Entries.field_eq, sameField]
  unfold givenType
  rw [sameType]

theorem read_of_agree {first second : Entries} {type : Value}
    (sameType : givenType first = givenType second) (agree : (typed first).Agree (typed second))
    (found : (typed first).field? "type" = some type) :
    read (.map first) = read (.map second) := by
  by_cases isEvent : givenType first = .text "event"
  · rw [read_event isEvent, read_event (sameType ▸ isEvent), eventOf_of_agree agree]
  · by_cases isPageView : givenType first = .text "pageview"
    · rw [read_pageView isPageView, read_pageView (sameType ▸ isPageView),
        pageViewOf_of_agree agree found]
    · rw [read_other isEvent isPageView, read_other (sameType ▸ isEvent) (sameType ▸ isPageView),
        sameType]

def underName (outer criteria : String → Option Value) (name : String) : Option Value :=
  if name = "name" then (outer "name").or (criteria "name")
  else if name = "event_name" then
    (criteria "event_name").or ((outer "event_name").or (criteria "name"))
  else (criteria name).or (outer name)

def outerField (entries : Entries) (name : String) : Option Value :=
  if "criteria" = name then none else entries.field? name

section

variable {entries criteria : Entries} (isMap : entries.field "criteria" = .map criteria)
  (once : (Entries.names criteria).Nodup)

include isMap once

theorem field?_flatten_of_map (name : String) :
    (flatten entries).field? name =
      underName (outerField entries) criteria.field? name := by
  have onceMore (name : String) :
      Entries.field? (Entries.ofList criteria).reverse name = criteria.field? name := by
    rw [Entries.field?_reverse (Entries.distinct_ofList criteria), Entries.field?_ofList,
      Entries.field?_reverse once]
  have asGiven : (Entries.ofList criteria).field? "name" = criteria.field? "name" := by
    rw [Entries.field?_ofList, Entries.field?_reverse once]
  rw [flatten_of_map isMap, field?_overlay]
  simp only [Entries.field?_filter_ne, onceMore, asGiven]
  rfl

variable (noType : criteria.field? "type" = none)

include noType

theorem field?_typed_of_map (name : String) :
    (typed entries).field? name =
      if "type" = name then some (givenType entries)
      else underName (outerField entries) criteria.field? name := by
  have isStillMap : (entries.insertField "type" (givenType entries)).field "criteria" =
      .map criteria := by
    rw [Entries.field_eq, Entries.field?_insertField, if_neg (by decide), ← Entries.field_eq, isMap]
  rw [typed, field?_flatten_of_map isStillMap once]
  unfold underName outerField
  simp only [Entries.field?_insertField]
  by_cases isType : "type" = name
  · subst isType
    simp [noType]
  · simp [isType]

end

/-- The flat form of a step: its fields but the criteria, overridden by the criteria but their name.
That is the name of the event when none is given, and the name of the step when it has none. -/
def flatForm (entries criteria : Entries) : Entries :=
  let outer := List.filter (fun entry => !entry.1.equals (.text "criteria")) entries
  let overridden :=
    Entries.merge outer (List.filter (fun entry => !entry.1.equals (.text "name")) criteria)
  match criteria.field? "name" with
  | none => overridden
  | some value => (overridden.insertMissing "event_name" value).insertMissing "name" value

theorem field?_flatForm (entries : Entries) {criteria : Entries}
    (once : (Entries.names criteria).Nodup) (name : String) :
    (flatForm entries criteria).field? name =
      underName (outerField entries) criteria.field? name := by
  have overrides (name : String) :
      Entries.field? (List.filter (fun entry => !entry.1.equals (.text "name")) criteria).reverse
        name = if "name" = name then none else criteria.field? name := by
    rw [← List.filter_reverse, Entries.field?_filter_ne, Entries.field?_reverse once]
  unfold flatForm underName outerField
  by_cases isName : name = "name"
  · subst isName
    cases named : criteria.field? "name" <;>
      simp [Entries.field?_insertMissing, Entries.field?_merge, Entries.field?_filter_ne, overrides]
  · by_cases isEvent : name = "event_name"
    · subst isEvent
      cases named : criteria.field? "name" <;>
        simp [Entries.field?_insertMissing, Entries.field?_merge, Entries.field?_filter_ne, overrides]
    · have notName : "name" ≠ name := Ne.symm isName
      have notEvent : "event_name" ≠ name := Ne.symm isEvent
      cases named : criteria.field? "name" <;>
        simp [Entries.field?_insertMissing, Entries.field?_merge, Entries.field?_filter_ne,
          overrides, isName, isEvent, notName, notEvent]

theorem read_eq_read_flatForm {entries criteria : Entries}
    (isMap : entries.field "criteria" = .map criteria) (once : (Entries.names criteria).Nodup)
    (noType : criteria.field? "type" = none) (noCriteria : criteria.field? "criteria" = none) :
    read (.map entries) = read (.map (flatForm entries criteria)) := by
  have flatField := field?_flatForm entries once
  have sameType : givenType entries = givenType (flatForm entries criteria) := by
    apply givenType_of_field?
    rw [flatField]
    simp [underName, outerField, noType]
  have isFlat (nested : Entries) :
      ((flatForm entries criteria).insertField "type"
        (givenType (flatForm entries criteria))).field "criteria" ≠ .map nested := by
    rw [Entries.field_eq, Entries.field?_insertField, flatField]
    simp [underName, outerField, noCriteria]
  have typedField := field?_typed_of_map isMap once noType
  refine read_of_agree sameType (fun name => ?_) ((typedField "type").trans (if_pos rfl))
  rw [typedField, typed, flatten_of_not_map isFlat, Entries.field?_insertField, flatField, sameType]

theorem read_eq_read_of_perm {entries criteria reordered others : Entries}
    (isMap : entries.field "criteria" = .map criteria) (entriesOnce : (Entries.names entries).Nodup)
    (once : (Entries.names criteria).Nodup) (noType : criteria.field? "type" = none)
    (perm : criteria.Perm reordered)
    (permAll : (entries.insertField "criteria" (.map reordered)).Perm others) :
    read (.map entries) = read (.map others) := by
  have sameCriteria := Entries.agree_of_perm perm once
  have othersField (name : String) : others.field? name =
      if "criteria" = name then some (.map reordered) else entries.field? name := by
    have insertedOnce := Entries.distinct_merge entriesOnce [(.text "criteria", .map reordered)]
    rw [← Entries.agree_of_perm permAll insertedOnce name, Entries.field?_insertField]
  have isOtherMap : others.field "criteria" = .map reordered := by
    rw [Entries.field_eq, othersField, if_pos rfl]
    rfl
  have sameOuter : outerField others = outerField entries := by
    funext name
    unfold outerField
    split
    · rfl
    · rw [othersField, if_neg ‹_›]
  have sameType : givenType entries = givenType others := by
    apply givenType_of_field?
    rw [othersField, if_neg (by decide)]
  have reorderedOnce := (perm.filterMap _).nodup_iff.mp once
  have noOtherType := (sameCriteria "type").symm.trans noType
  have typedField := field?_typed_of_map isMap once noType
  refine read_of_agree sameType (fun name => ?_) ((typedField "type").trans (if_pos rfl))
  rw [typedField, field?_typed_of_map isOtherMap reorderedOnce noOtherType, sameType, sameOuter,
    funext sameCriteria]

/-- A step with criteria in a map of their own is read as its flat form, with the same problems when it
has any, and the order of its fields and of the criteria makes no difference. -/
theorem nested_read_as_flat {entries criteria : Entries}
    (isMap : entries.field "criteria" = .map criteria) (entriesOnce : (Entries.names entries).Nodup)
    (once : (Entries.names criteria).Nodup) (noType : criteria.field? "type" = none)
    (noCriteria : criteria.field? "criteria" = none) :
    read (.map entries) = read (.map (flatForm entries criteria)) ∧
      ∀ reordered others : Entries, criteria.Perm reordered →
        (entries.insertField "criteria" (.map reordered)).Perm others →
          read (.map entries) = read (.map others) :=
  ⟨read_eq_read_flatForm isMap once noType noCriteria, fun _ _ perm permAll =>
    read_eq_read_of_perm isMap entriesOnce once noType perm permAll⟩

def signupCriteria : Entries :=
  [(.text "name", .text "signup"), (.text "event_name", .null), (.text "event_category", .text "user")]

theorem signup_criteria_read_as_flat :
    let nested : Entries := [(.text "name", .text "Joined"), (.text "criteria", .map signupCriteria)]
    read (.map nested) = read (.map [(.text "name", .text "Joined"), (.text "event_name", .null),
        (.text "event_category", .text "user")]) ∧
      read (.map nested) = read (.map [(.text "criteria", .map signupCriteria.reverse),
        (.text "name", .text "Joined")]) := by
  intro nested
  have isMap : nested.field "criteria" = .map signupCriteria := by
    simp [nested, Entries.field_eq]
  have isFlat : flatForm nested signupCriteria = [(.text "name", .text "Joined"),
      (.text "event_name", .null), (.text "event_category", .text "user")] := by
    simp [flatForm, nested, signupCriteria, Entries.merge, Entries.insert, Entries.insertMissing,
      Entries.contains, Value.text_equals_text]
  have inOtherOrder : (nested.insertField "criteria" (.map signupCriteria.reverse)).Perm
      [(.text "criteria", .map signupCriteria.reverse), (.text "name", .text "Joined")] := by
    simpa [nested, Entries.insertField, Entries.insert, Entries.contains, Value.text_equals_text]
      using List.Perm.swap _ _ _
  obtain ⟨asFlat, asReordered⟩ := nested_read_as_flat isMap (by decide) (by decide)
    (by simp [signupCriteria]) (by simp [signupCriteria])
  exact ⟨isFlat ▸ asFlat, asReordered _ _ (List.reverse_perm _).symm inOtherOrder⟩

end FunnelStep

end ConversionTracking
