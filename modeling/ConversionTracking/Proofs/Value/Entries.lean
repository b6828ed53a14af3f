import ConversionTracking.Definition.Field
import Mathlib.Data.List.Nodup

/-!
The entries of maps, looked up by name: what is found after entries are added, replaced, merged or
left out. A map that is made of a list of entries has every name once.
-/

namespace ConversionTracking

namespace Option.Rel

variable {α β : Type} {relation other : α → β → Prop} {left : Option α} {right : Option β}

theorem imp (related : Option.Rel relation left right)
    (implies : ∀ value content, left = some value → right = some content →
      relation value content → other value content) : Option.Rel other left right := by
  cases related with
  | none => exact .none
  | some holds => exact .some (implies _ _ rfl rfl holds)

theorem flip (related : Option.Rel relation left right) :
    Option.Rel (fun content value => relation value content) right left := by
  cases related with
  | none => exact .none
  | some holds => exact .some holds

theorem or {left' : Option α} {right' : Option β} (first : Option.Rel relation left right)
    (second : Option.Rel relation left' right') :
    Option.Rel relation (left.or left') (right.or right') := by
  cases first with
  | none => simpa using second
  | some holds => exact .some holds

theorem getD (related : Option.Rel relation left right) {value : α} {content : β}
    (holds : relation value content) : relation (left.getD value) (right.getD content) := by
  cases related with
  | none => exact holds
  | some holds => exact holds

end Option.Rel

namespace Value

@[simp] theorem equals_text_iff (value : Value) (name : String) :
    value.equals (.text name) = true ↔ value = .text name := by
  cases value <;> simp [equals, equalScalars, numeric?]

@[simp] theorem text_equals_iff (name : String) (value : Value) :
    (Value.text name).equals value = true ↔ value = .text name := by
  cases value with
  | text other => simp [eq_comm (a := name)]
  | _ => simp [equals, equalScalars, numeric?]

theorem text_equals_text (first second : String) :
    (Value.text first).equals (.text second) = (first == second) := by
  rw [Bool.eq_iff_iff, equals_text_iff, text.injEq, beq_iff_eq]

theorem text?_eq_some_iff (value : Value) (name : String) :
    value.text? = some name ↔ value = .text name := by
  cases value <;> simp [text?]

end Value

namespace Entries

@[simp] theorem field?_nil (name : String) : field? [] name = none := rfl

theorem field?_cons (key value : Value) (rest : Entries) (name : String) :
    field? ((key, value) :: rest) name =
      if key.equals (.text name) then some value else field? rest name := by
  simp only [field?, find?, List.find?_cons]
  cases key.equals (.text name) <;> rfl

@[simp] theorem field?_cons_text (key name : String) (value : Value) (rest : Entries) :
    field? ((.text key, value) :: rest) name =
      if key = name then some value else field? rest name := by
  simp only [field?_cons, Value.text_equals_text, beq_iff_eq]

theorem field?_cons_congr {key name : String} {value other : Value} {rest others : Entries}
    (sameValue : key = name → value = other) (sameRest : field? rest name = field? others name) :
    field? ((.text key, value) :: rest) name = field? ((.text key, other) :: others) name := by
  rw [field?_cons_text, field?_cons_text, sameRest]
  split
  · rw [sameValue ‹_›]
  · rfl

theorem field?_append (first second : Entries) (name : String) :
    field? (first ++ second) name = (field? first name).or (field? second name) := by
  simp only [field?, find?, List.find?_append, Option.map_or]

theorem field_eq (entries : Entries) (name : String) :
    field entries name = (field? entries name).getD .null := rfl

theorem contains_eq_isSome (entries : Entries) (name : String) :
    contains entries (.text name) = (field? entries name).isSome := by
  rw [Bool.eq_iff_iff]
  simp only [contains, field?, find?, Option.isSome_map, List.find?_isSome, List.any_eq_true]

theorem mem_of_field? {entries : Entries} {name : String} {value : Value}
    (found : field? entries name = some value) : (.text name, value) ∈ entries := by
  simp only [field?, find?, Option.map_eq_some_iff] at found
  obtain ⟨⟨key, content⟩, first, rfl⟩ := found
  have isName := List.find?_some first
  rw [Value.equals_text_iff] at isName
  exact isName ▸ List.mem_of_find?_eq_some first

def names (entries : Entries) : List String := List.filterMap (·.1.text?) entries

theorem mem_names_iff (entries : Entries) (name : String) :
    name ∈ names entries ↔ ∃ value, (.text name, value) ∈ entries := by
  simp only [names, List.mem_filterMap, Value.text?_eq_some_iff]
  constructor
  · rintro ⟨⟨key, value⟩, member, rfl⟩
    exact ⟨value, member⟩
  · rintro ⟨value, member⟩
    exact ⟨_, member, rfl⟩

theorem field?_eq_none_iff (entries : Entries) (name : String) :
    field? entries name = none ↔ name ∉ names entries := by
  rw [mem_names_iff, field?, find?, Option.map_eq_none_iff, List.find?_eq_none]
  constructor
  · rintro absent ⟨value, member⟩
    exact absent _ member ((Value.equals_text_iff _ _).mpr rfl)
  · intro absent entry member isName
    obtain ⟨key, value⟩ := entry
    obtain rfl := (Value.equals_text_iff _ _).mp isName
    exact absent ⟨value, member⟩

theorem field?_of_mem {entries : Entries} (distinct : (names entries).Nodup) {name : String}
    {value : Value} (member : (.text name, value) ∈ entries) : field? entries name = some value := by
  induction entries with
  | nil => simp at member
  | cons first rest ih =>
      obtain ⟨key, content⟩ := first
      rw [field?_cons]
      split
      · rename_i isName
        obtain rfl := (Value.equals_text_iff _ _).mp isName
        obtain ⟨notLater, _⟩ := List.nodup_cons.mp distinct
        rcases List.mem_cons.mp member with same | later
        · exact congrArg some (Prod.mk.inj same).2.symm
        · exact absurd ((mem_names_iff rest name).mpr ⟨value, later⟩) notLater
      · rename_i isOther
        rcases List.mem_cons.mp member with same | later
        · exact absurd ((Value.equals_text_iff _ _).mpr (Prod.mk.inj same).1.symm) isOther
        · exact ih (distinct.sublist (List.Sublist.filterMap _ (List.sublist_cons_self _ _))) later

theorem field?_eq_some_iff {entries : Entries} (distinct : (names entries).Nodup) (name : String)
    (value : Value) : field? entries name = some value ↔ (.text name, value) ∈ entries :=
  ⟨mem_of_field?, field?_of_mem distinct⟩

theorem names_reverse (entries : Entries) : names entries.reverse = (names entries).reverse :=
  List.filterMap_reverse

theorem field?_reverse {entries : Entries} (distinct : (names entries).Nodup) (name : String) :
    field? entries.reverse name = field? entries name := by
  apply Option.ext
  intro value
  have reversed : (names entries.reverse).Nodup := by
    rw [names_reverse]
    exact List.nodup_reverse.mpr distinct
  rw [field?_eq_some_iff reversed, field?_eq_some_iff distinct, List.mem_reverse]

theorem field?_filter_ne (entries : Entries) (other name : String) :
    field? (List.filter (fun entry => !entry.1.equals (.text other)) entries) name =
      if other = name then none else field? entries name := by
  induction entries with
  | nil => simp
  | cons first rest ih =>
      obtain ⟨key, value⟩ := first
      cases dropped : key.equals (.text other) with
      | true =>
          obtain rfl := (Value.equals_text_iff _ _).mp dropped
          rw [List.filter_cons_of_neg (by simp), ih, field?_cons_text]
          split <;> rfl
      | false =>
          rw [List.filter_cons_of_pos (by simp [dropped]), field?_cons, field?_cons, ih]
          by_cases same : other = name
          · simp [← same, dropped]
          · simp [same]

theorem field?_insert (entries : Entries) (key value : Value) (name : String) :
    field? (insert entries key value) name =
      if key.equals (.text name) then some value else field? entries name := by
  have replaced (entries : Entries) :
      field? (List.map (fun entry => if entry.1.equals key then (entry.1, value) else entry)
          entries) name =
        if key.equals (.text name) then (field? entries name).map fun _ => value
        else field? entries name := by
    induction entries with
    | nil => simp
    | cons first rest ih =>
        obtain ⟨own, content⟩ := first
        rw [List.map_cons]
        split
        · rename_i isKey
          rw [field?_cons, field?_cons, ih]
          cases isName : own.equals (.text name) with
          | false => simp
          | true =>
              obtain rfl := (Value.equals_text_iff _ _).mp isName
              obtain rfl := (Value.text_equals_iff _ _).mp isKey
              simp
        · rename_i isOther
          rw [field?_cons, field?_cons, ih]
          cases isName : own.equals (.text name) with
          | false => simp
          | true =>
              obtain rfl := (Value.equals_text_iff _ _).mp isName
              have differ : ¬key.equals (.text name) = true := by
                intro same
                exact isOther ((Value.text_equals_iff _ _).mpr
                  ((Value.equals_text_iff _ _).mp same))
              simp [differ]
  unfold insert
  split
  · rename_i isContained
    rw [replaced]
    split
    · rename_i isName
      obtain rfl := (Value.equals_text_iff _ _).mp isName
      rw [contains_eq_isSome] at isContained
      obtain ⟨old, found⟩ := Option.isSome_iff_exists.mp isContained
      simp [found]
    · rfl
  · rename_i isNew
    rw [field?_append, field?_cons, field?_nil]
    cases isName : key.equals (.text name) with
    | false => simp
    | true =>
        obtain rfl := (Value.equals_text_iff _ _).mp isName
        rw [contains_eq_isSome] at isNew
        simp [Option.not_isSome_iff_eq_none.mp isNew]

theorem field?_insertField (entries : Entries) (key name : String) (value : Value) :
    field? (insertField entries key value) name =
      if key = name then some value else field? entries name := by
  rw [insertField, field?_insert, Value.text_equals_text]
  simp only [beq_iff_eq]

theorem field?_insertMissing (entries : Entries) (key name : String) (value : Value) :
    field? (insertMissing entries key value) name =
      (field? entries name).or (if key = name then some value else none) := by
  unfold insertMissing
  rw [contains_eq_isSome]
  split
  · rename_i isThere
    split
    · rename_i same
      obtain ⟨old, found⟩ := Option.isSome_iff_exists.mp (same ▸ isThere)
      simp [found]
    · simp
  · rw [field?_append, field?_cons_text, field?_nil]

theorem field?_merge (entries changes : Entries) (name : String) :
    field? (merge entries changes) name =
      (field? changes.reverse name).or (field? entries name) := by
  induction changes generalizing entries with
  | nil => rfl
  | cons change rest ih =>
      obtain ⟨key, value⟩ := change
      have step : merge entries ((key, value) :: rest) = merge (insert entries key value) rest := rfl
      rw [step, ih, field?_insert, List.reverse_cons, field?_append, field?_cons, field?_nil,
        Option.or_assoc]
      congr 1
      split <;> simp

theorem field?_ofList (pairs : List (Value × Value)) (name : String) :
    field? (ofList pairs) name = field? pairs.reverse name := by
  rw [ofList, field?_merge, field?_nil, Option.or_none]

section

variable (ofKey ofValue : Value → Prop)

theorem forall_insert {entries : Entries} {key value : Value}
    (holds : ∀ entry ∈ entries, ofKey entry.1 ∧ ofValue entry.2) (keyHolds : ofKey key)
    (valueHolds : ofValue value) :
    ∀ entry ∈ insert entries key value, ofKey entry.1 ∧ ofValue entry.2 := by
  intro entry member
  unfold insert at member
  split at member
  · obtain ⟨old, isOld, rfl⟩ := List.mem_map.mp member
    split
    · exact ⟨(holds old isOld).1, valueHolds⟩
    · exact holds old isOld
  · rcases List.mem_append.mp member with isOld | isNew
    · exact holds entry isOld
    · obtain rfl := List.mem_singleton.mp isNew
      exact ⟨keyHolds, valueHolds⟩

theorem forall_insertMissing {entries : Entries} {name : String} {value : Value}
    (holds : ∀ entry ∈ entries, ofKey entry.1 ∧ ofValue entry.2) (nameHolds : ofKey (.text name))
    (valueHolds : ofValue value) :
    ∀ entry ∈ insertMissing entries name value, ofKey entry.1 ∧ ofValue entry.2 := by
  unfold insertMissing
  split
  · exact holds
  · exact List.forall_mem_append.mpr ⟨holds, List.forall_mem_singleton.mpr ⟨nameHolds, valueHolds⟩⟩

theorem forall_merge {entries changes : Entries}
    (holds : ∀ entry ∈ entries, ofKey entry.1 ∧ ofValue entry.2)
    (ofChanges : ∀ entry ∈ changes, ofKey entry.1 ∧ ofValue entry.2) :
    ∀ entry ∈ merge entries changes, ofKey entry.1 ∧ ofValue entry.2 := by
  induction changes generalizing entries with
  | nil => exact holds
  | cons change rest ih =>
      obtain ⟨ofFirst, ofRest⟩ := List.forall_mem_cons.mp ofChanges
      exact ih (forall_insert ofKey ofValue holds ofFirst.1 ofFirst.2) ofRest

theorem forall_ofList {pairs : List (Value × Value)}
    (holds : ∀ pair ∈ pairs, ofKey pair.1 ∧ ofValue pair.2) :
    ∀ entry ∈ ofList pairs, ofKey entry.1 ∧ ofValue entry.2 :=
  forall_merge ofKey ofValue (by simp) holds

end

theorem names_insert (entries : Entries) (key value : Value) :
    names (insert entries key value) = names entries ∨
      ∃ name, key = .text name ∧ name ∉ names entries ∧
        names (insert entries key value) = names entries ++ [name] := by
  unfold insert
  split
  · apply Or.inl
    rw [names, List.filterMap_map]
    apply List.filterMap_congr
    intro entry _
    simp only [Function.comp_apply]
    split <;> rfl
  · rename_i isNew
    cases isText : key.text? with
    | none =>
        apply Or.inl
        simp [names, isText]
    | some name =>
        obtain rfl := (Value.text?_eq_some_iff _ _).mp isText
        refine Or.inr ⟨name, rfl, ?_, by simp [names, Value.text?]⟩
        rw [contains_eq_isSome] at isNew
        exact (field?_eq_none_iff _ _).mp (Option.not_isSome_iff_eq_none.mp isNew)

theorem distinct_merge {entries : Entries} (distinct : (names entries).Nodup) (changes : Entries) :
    (names (merge entries changes)).Nodup := by
  induction changes generalizing entries with
  | nil => exact distinct
  | cons change rest ih =>
      apply ih
      rcases names_insert entries change.1 change.2 with same | ⟨name, _, isNew, added⟩
      · exact same ▸ distinct
      · rw [added]
        exact List.nodup_append.mpr ⟨distinct, List.nodup_singleton name, by
          rintro other member _ isName rfl
          exact isNew (List.mem_singleton.mp isName ▸ member)⟩

theorem distinct_ofList (pairs : List (Value × Value)) : (names (ofList pairs)).Nodup := by
  have empty : (names ([] : Entries)).Nodup := List.nodup_nil
  exact distinct_merge empty pairs

end Entries

namespace Fields

def toEntries (fields : Fields) : Entries := List.map (fun field => (.text field.1, field.2)) fields

theorem toValue_eq (fields : Fields) : toValue fields = .map (toEntries fields) := rfl

theorem exists_toEntries {entries : Entries}
    (areNamed : ∀ entry ∈ entries, ∃ name, entry.1 = .text name) :
    ∃ fields : Fields, entries = toEntries fields := by
  induction entries with
  | nil => exact ⟨[], rfl⟩
  | cons entry rest ih =>
      obtain ⟨⟨name, isName⟩, restNamed⟩ := List.forall_mem_cons.mp areNamed
      obtain ⟨fields, rfl⟩ := ih restNamed
      exact ⟨(name, entry.2) :: fields, congrArg (· :: toEntries fields) (Prod.ext isName rfl)⟩

def Distinct (fields : Fields) : Prop := (List.map Prod.fst fields).Nodup

theorem names_toEntries (fields : Fields) :
    Entries.names (toEntries fields) = List.map Prod.fst fields := by
  induction fields with
  | nil => rfl
  | cons field rest ih => exact congrArg (field.1 :: ·) ih

theorem mem_of_field? {fields : Fields} {name : String} {value : Value}
    (found : Entries.field? (toEntries fields) name = some value) : (name, value) ∈ fields := by
  obtain ⟨field, member, same⟩ := List.mem_map.mp (Entries.mem_of_field? found)
  cases same
  exact member

theorem toEntries_insert (fields : Fields) (name : String) (value : Value) :
    toEntries (insert fields name value) = Entries.insert (toEntries fields) (.text name) value := by
  have contained : Entries.contains (toEntries fields) (.text name) =
      List.any fields (·.1 == name) := by
    simp only [Entries.contains, toEntries, List.any_map, Function.comp_def,
      Value.text_equals_text]
  simp only [insert, Entries.insert, contained]
  split
  · simp only [toEntries, List.map_map]
    apply List.map_congr_left
    intro field _
    simp only [Function.comp_apply, Value.text_equals_text]
    split
    · rename_i same
      rw [beq_iff_eq.mp same]
    · rfl
  · simp [toEntries]

theorem ofList_toEntries (pairs : List (String × Value)) :
    Entries.ofList (toEntries pairs) = toEntries (ofList pairs) := by
  have merged (fields : Fields) : Entries.merge (toEntries fields) (toEntries pairs) =
      toEntries (pairs.foldl (fun fields pair => insert fields pair.1 pair.2) fields) := by
    induction pairs generalizing fields with
    | nil => rfl
    | cons pair rest ih =>
        rw [List.foldl_cons, ← ih, toEntries_insert]
        rfl
  exact merged []

theorem distinct_ofList (pairs : List (String × Value)) : Distinct (ofList pairs) := by
  rw [Distinct, ← names_toEntries, ← ofList_toEntries]
  exact Entries.distinct_ofList _

theorem forall_ofList (property : Value → Prop) {pairs : List (String × Value)}
    (holds : ∀ pair ∈ pairs, property pair.2) : ∀ field ∈ ofList pairs, property field.2 := by
  have step (fields : Fields) (pair : String × Value) (ofPair : property pair.2)
      (ofFields : ∀ field ∈ fields, property field.2) :
      ∀ field ∈ insert fields pair.1 pair.2, property field.2 := by
    intro field member
    unfold insert at member
    split at member
    · obtain ⟨old, isOld, rfl⟩ := List.mem_map.mp member
      split
      · exact ofPair
      · exact ofFields old isOld
    · rcases List.mem_append.mp member with isOld | isNew
      · exact ofFields field isOld
      · exact List.mem_singleton.mp isNew ▸ ofPair
  have merged (fields : Fields) (ofFields : ∀ field ∈ fields, property field.2) :
      ∀ field ∈ pairs.foldl (fun fields pair => insert fields pair.1 pair.2) fields,
        property field.2 := by
    induction pairs generalizing fields with
    | nil => exact ofFields
    | cons pair rest ih =>
        exact ih (fun other member => holds other (List.mem_cons_of_mem pair member)) _
          (step fields pair (holds pair List.mem_cons_self) ofFields)
  exact merged [] (by simp)

theorem ofList_eq_nil_iff (pairs : List (String × Value)) : ofList pairs = [] ↔ pairs = [] := by
  have inserted (fields : Fields) (name : String) (value : Value) : insert fields name value ≠ [] := by
    cases fields with
    | nil => simp [insert]
    | cons first rest =>
        unfold insert
        split <;> simp
  have merged (pairs : List (String × Value)) (fields : Fields) (notEmpty : fields ≠ []) :
      pairs.foldl (fun fields pair => insert fields pair.1 pair.2) fields ≠ [] := by
    induction pairs generalizing fields with
    | nil => exact notEmpty
    | cons pair rest ih => exact ih _ (inserted fields pair.1 pair.2)
  cases pairs with
  | nil => simp [ofList]
  | cons pair rest => exact iff_of_false (merged rest _ (inserted [] _ _)) (List.cons_ne_nil _ _)

theorem ofList_of_distinct {fields : Fields} (distinct : Distinct fields) : ofList fields = fields := by
  have appended (done rest : Fields) (distinct : Distinct (done ++ rest)) :
      rest.foldl (fun fields pair => insert fields pair.1 pair.2) done = done ++ rest := by
    induction rest generalizing done with
    | nil => simp
    | cons first rest ih =>
        have isNew : List.any done (·.1 == first.1) = false := by
          rw [List.any_eq_false]
          intro other member same
          rw [Distinct, List.map_append] at distinct
          exact (List.nodup_append.mp distinct).2.2 _ (List.mem_map_of_mem member) first.1
            (by simp) (beq_iff_eq.mp same)
        rw [List.foldl_cons, insert, isNew, if_neg (by simp), ih _ (by simpa using distinct)]
        simp
  exact appended [] fields distinct

end Fields

end ConversionTracking
