import ConversionTracking.Proofs.Definition.Refusals
import ConversionTracking.Proofs.GoalsFile.Revisions
import ConversionTracking.Proofs.Store.ScopedChanges
import ConversionTracking.Proofs.Store.Storable
import ConversionTracking.Proofs.Value.Writing

/-!
Updates of stored goals. The fields that the changes name take the values that the definition has for
them, as their columns keep them, and the others stay as they are; otherwise it is told what is wrong
and nothing is changed. A step whose type cannot be looked up stops the update instead, an equal
document is not written again, and a number may be none in its column.
-/

namespace ConversionTracking

/-- The entries are those of an object of JSON. -/
structure Entries.IsObject (entries : Entries) : Prop where
  onlyNames : GoalDefinition.OnlyNames entries
  distinct : entries.names.Nodup
  written : ∀ entry ∈ entries, entry.2.HasDocument

def Entries.SiteFits (entries : Entries) : Prop :=
  ∀ value site, entries.field? "site_id" = some value → FieldKind.readWhole value = .ok site →
    IsWord site

namespace Entries.IsObject

variable {entries changes : Entries}

theorem merge (object : entries.IsObject) (changesObject : changes.IsObject) :
    (entries.merge changes).IsObject := by
  have both := forall_merge (fun key => ∃ name, key = .text name) Value.HasDocument
    (fun entry member => ⟨object.onlyNames entry member, object.written entry member⟩)
    fun entry member => ⟨changesObject.onlyNames entry member, changesObject.written entry member⟩
  exact ⟨fun entry member => (both entry member).1, distinct_merge object.distinct changes,
    fun entry member => (both entry member).2⟩

theorem areWritable (object : entries.IsObject) : Value.entriesAreWritable entries = true := by
  rw [Value.entriesAreWritable_iff]
  intro entry member
  obtain ⟨name, isName⟩ := object.onlyNames entry member
  rw [isName]
  exact ⟨rfl, (object.written entry member).isWritable⟩

theorem not_hasDecimal (object : entries.IsObject) : ¬(Value.map entries).HasDecimal := by
  rw [Value.not_hasDecimal_map_iff]
  intro entry member
  obtain ⟨name, isName⟩ := object.onlyNames entry member
  rw [isName]
  exact ⟨Value.not_hasDecimal_text name, (object.written entry member).not_hasDecimal⟩

theorem field?_merge (changesObject : changes.IsObject) (entries : Entries) (name : String) :
    (entries.merge changes).field? name = (changes.field? name).or (entries.field? name) := by
  rw [Entries.field?_merge, field?_reverse changesObject.distinct]

end Entries.IsObject

theorem FieldKind.hasDocument_of_fields {value : Value} {entries : Fields}
    (reads : fields value = .valid entries) (hasDocument : value.HasDocument) :
    entries.toValue.HasDocument := by
  have ofFields : ∀ field ∈ entries, field.2.HasDocument := by
    refine forall_of_fields Value.HasDocument reads ?_
    rintro pairs rfl pair isPair
    exact ((Value.hasDocument_map_iff pairs).mp hasDocument pair isPair).2
  rw [Fields.toValue_eq, Value.hasDocument_map_iff, Fields.toEntries, List.forall_mem_map]
  exact fun field isField => ⟨⟨field.1, rfl⟩, ofFields field isField⟩

namespace GoalDefinition

theorem isStorable_of_reads {attributes : Entries} {definition : GoalDefinition}
    (reads : definition.IsReadFrom attributes)
    (written : ∀ entry ∈ attributes, entry.2.HasDocument) : definition.IsStorable := by
  constructor
  · rcases (Entries.withDefault_eq_valid_iff _ _ _ _ _).mp reads.conditions with
      ⟨_, isEmpty⟩ | ⟨value, found, readsValue⟩
    · rw [← isEmpty]
      exact ⟨_, rfl⟩
    · exact FieldKind.hasDocument_of_fields readsValue (written _ (Entries.mem_of_field? found))
  · unfold stepsValue
    rcases (Entries.optional_eq_valid_iff _ _ _ _).mp reads.funnelSteps with
      ⟨_, isNone⟩ | ⟨value, steps, found, _, readsSteps, isSome⟩
    · rw [isNone]
      exact ⟨_, rfl⟩
    · have hasDocument := written _ (Entries.mem_of_field? found)
      obtain ⟨values, areValues, areRead⟩ := FieldKind.exists_value_of_items readsSteps
      have areWritten : ∀ item ∈ values, item.HasDocument := by
        rcases areValues with rfl | rfl | rfl
        · exact (Value.hasDocument_list_iff values).mp hasDocument
        · exact (Value.hasDocument_list_iff values).mp hasDocument
        · exact absurd hasDocument (Value.not_hasDocument_set values)
      rw [isSome, Option.map_some, Option.getD_some]
      refine (Value.hasDocument_list_iff _).mpr (List.forall_mem_map.mpr fun step isStep => ?_)
      obtain ⟨item, isItem, readsItem⟩ := areRead step isStep
      exact FieldKind.hasDocument_of_fields readsItem (areWritten item isItem)

theorem IsReadFrom.field?_congr {first second : GoalDefinition} {attributes others : Entries}
    (readsFirst : first.IsReadFrom attributes) (readsSecond : second.IsReadFrom others)
    {name : String} (same : attributes.field? name = others.field? name) :
    first.toEntries.field? name = second.toEntries.field? name := by
  have required {α : Type} {check : Value → Checked α} {key : String} {left right : α}
      (readsLeft : attributes.required key check = .valid left)
      (readsRight : others.required key check = .valid right) (isName : key = name) :
      left = right := by
    subst isName
    obtain ⟨_, found, isLeft⟩ := (Entries.required_eq_valid_iff _ _ _ _).mp readsLeft
    obtain ⟨_, foundOther, isRight⟩ := (Entries.required_eq_valid_iff _ _ _ _).mp readsRight
    obtain rfl := Option.some.inj (found.symm.trans (same.trans foundOther))
    exact Checked.valid.inj (isLeft.symm.trans isRight)
  have withDefault {α : Type} {check : Value → Checked α} {key : String} {missing left right : α}
      (readsLeft : attributes.withDefault key missing check = .valid left)
      (readsRight : others.withDefault key missing check = .valid right) (isName : key = name) :
      left = right := by
    subst isName
    unfold Entries.withDefault at readsLeft readsRight
    rw [same] at readsLeft
    exact Checked.valid.inj (readsLeft.symm.trans readsRight)
  unfold toEntries stepsValue
  refine Entries.field?_cons_congr (fun isName => ?name) <|
    Entries.field?_cons_congr (fun isName => ?goalType) <|
    Entries.field?_cons_congr (fun isName => ?description) <|
    Entries.field?_cons_congr (fun isName => ?conditions) <|
    Entries.field?_cons_congr (fun isName => ?valueType) <|
    Entries.field?_cons_congr (fun isName => ?fixedValue) <|
    Entries.field?_cons_congr (fun isName => ?dynamicPath) <|
    Entries.field?_cons_congr (fun isName => ?allowMultiple) <|
    Entries.field?_cons_congr (fun isName => ?isActive) <|
    Entries.field?_cons_congr (fun isName => ?funnelSteps) <|
    Entries.field?_cons_congr (fun isName => ?siteId) <|
    Entries.field?_cons_congr (fun isName => ?tenantId) rfl
  case name => rw [required readsFirst.name readsSecond.name isName]
  case goalType => rw [required readsFirst.goalType readsSecond.goalType isName]
  case description => rw [withDefault readsFirst.description readsSecond.description isName]
  case conditions => rw [withDefault readsFirst.conditions readsSecond.conditions isName]
  case valueType => rw [withDefault readsFirst.valueType readsSecond.valueType isName]
  case fixedValue => rw [withDefault readsFirst.fixedValue readsSecond.fixedValue isName]
  case dynamicPath => rw [withDefault readsFirst.dynamicPath readsSecond.dynamicPath isName]
  case allowMultiple => rw [withDefault readsFirst.allowMultiple readsSecond.allowMultiple isName]
  case isActive => rw [withDefault readsFirst.isActive readsSecond.isActive isName]
  case funnelSteps => rw [withDefault readsFirst.funnelSteps readsSecond.funnelSteps isName]
  case siteId => rw [withDefault readsFirst.siteId readsSecond.siteId isName]
  case tenantId => rw [withDefault readsFirst.tenantId readsSecond.tenantId isName]

end GoalDefinition

namespace Column

def keptValue : Value → Value
  | .float number => ((keptNumber number).map .float).getD .null
  | value => value

def overwritten (name : String) (stored given : Value) : Except Fault Value :=
  if name = "conditions" ∨ name = "funnel_steps" then rewritten stored given
  else if name = "fixed_value" then .ok (keptValue given)
  else .ok given

theorem keptValue_float_eq_iff (number : Binary64) :
    keptValue (.float number) = .float number ↔ keptNumber number = some number := by
  rw [keptValue]
  cases keptNumber number <;> simp

theorem written_or_kept {name : String} {stored given content : Value}
    (isDocument : content.IsDocument) (writes : overwritten name stored given = .ok content) :
    given.document? = some content ∨
      ((name = "conditions" ∨ name = "funnel_steps") ∧ stored.equals given = true ∧
        content = stored) ∨
      (name = "fixed_value" ∧ ∃ number, given = .float number ∧ keptNumber number ≠ some number) := by
  unfold overwritten at writes
  split at writes
  · rename_i hasDocument
    unfold rewritten at writes
    split at writes
    · rename_i same
      exact Or.inr (Or.inl ⟨hasDocument, same, (Except.ok.inj writes).symm⟩)
    · exact Or.inl ((document_eq_ok_iff _ _).mp writes)
  split at writes
  · rename_i isNumber
    obtain rfl := Except.ok.inj writes
    by_cases kept : keptValue given = given
    · rw [kept] at isDocument ⊢
      exact Or.inl isDocument
    · cases given with
      | float number =>
          exact Or.inr (Or.inr ⟨isNumber, number, rfl, mt (keptValue_float_eq_iff number).mpr kept⟩)
      | _ => exact absurd rfl kept
  · obtain rfl := Except.ok.inj writes
    exact Or.inl isDocument

end Column

namespace GoalDefinition

variable (definition : GoalDefinition)

theorem field_conditions : definition.toEntries.field "conditions" = definition.conditions.toValue := by
  simp [Entries.field_eq, toEntries]

theorem field_funnelSteps : definition.toEntries.field "funnel_steps" = definition.stepsValue := by
  simp [Entries.field_eq, toEntries]

theorem field_fixedValue :
    definition.toEntries.field "fixed_value" = (definition.fixedValue.map .float).getD .null := by
  simp [Entries.field_eq, toEntries]

end GoalDefinition

namespace Goal

section

variable (goal : Goal)

theorem field_conditions : goal.toEntries.field "conditions" = goal.conditions := by
  simp [Entries.field_eq, toEntries]

theorem field_funnelSteps : goal.toEntries.field "funnel_steps" = goal.funnelSteps := by
  simp [Entries.field_eq, toEntries]

theorem field_fixedValue :
    goal.toEntries.field "fixed_value" = (goal.fixedValue.map .float).getD .null := by
  simp [Entries.field_eq, toEntries]

end

variable {stored changed : Goal} {definition : GoalDefinition}

theorem field_revised (made : stored.revised definition = .ok changed) (name : String) :
    Column.overwritten name (stored.toEntries.field name) (definition.toEntries.field name) =
      .ok (changed.toEntries.field name) := by
  have documents := documents_of_revised made
  obtain ⟨_, _, made⟩ := Except.bind_eq_ok_iff.mp made
  obtain ⟨_, _, made⟩ := Except.bind_eq_ok_iff.mp made
  obtain ⟨_, rfl⟩ := (ofParts_eq_ok_iff _ _ _ _ _).mp made
  unfold Column.overwritten
  split
  · rename_i isDocument
    rcases isDocument with rfl | rfl
    · rw [field_conditions, field_conditions, GoalDefinition.field_conditions]
      exact documents.1
    · rw [field_funnelSteps, field_funnelSteps, GoalDefinition.field_funnelSteps]
      exact documents.2
  rename_i noDocument
  obtain ⟨noConditions, noSteps⟩ := not_or.mp noDocument
  split
  · rename_i isNumber
    subst isNumber
    rw [field_fixedValue, GoalDefinition.field_fixedValue]
    cases definition.fixedValue <;> rfl
  · rename_i noNumber
    simp only [Entries.field_eq, toEntries, GoalDefinition.toEntries, Entries.field?_cons_text,
      if_neg (Ne.symm noConditions), if_neg (Ne.symm noSteps), if_neg (Ne.symm noNumber)]

theorem Stores.isDocument_toEntries {goal : Goal} (stores : goal.Stores definition) :
    ∀ entry ∈ goal.toEntries, entry.2.IsDocument := by
  have orNull {α : Type} {wrap : α → Value} {value : Option α}
      (ofEach : ∀ content, value = some content → (wrap content).IsDocument) :
      ((value.map wrap).getD .null).IsDocument := by
    cases value with
    | none => rfl
    | some content => exact ofEach content rfl
  have ofSite (site : Int) (isSite : goal.siteId = some site) : (Value.int site).IsDocument := by
    rw [Value.IsDocument, Value.document?,
      if_pos (isWritableWhole_of_checkWord (stores.siteFits site isSite))]
  have ofText (value : Option String) : ((value.map Value.text).getD .null).IsDocument :=
    orNull fun _ _ => rfl
  have ofNumber (value : Option Binary64) : ((value.map Value.float).getD .null).IsDocument :=
    orNull fun _ _ => rfl
  simp only [toEntries, List.forall_mem_cons]
  exact ⟨rfl, rfl, ofText _, stores.conditions.isDocument, rfl, ofNumber _, ofText _, rfl, rfl,
    stores.funnelSteps.isDocument, orNull ofSite, ofText _, List.forall_mem_nil _⟩

theorem Stores.isDocument_field {goal : Goal} (stores : goal.Stores definition) (name : String) :
    (goal.toEntries.field name).IsDocument := by
  rw [Entries.field_eq]
  cases found : goal.toEntries.field? name with
  | none => rfl
  | some value => exact stores.isDocument_toEntries _ (Entries.mem_of_field? found)

theorem StoresValid.isObject_toEntries {goal : Goal} (valid : goal.StoresValid) :
    goal.toEntries.IsObject := by
  obtain ⟨_, _, _, stores⟩ := valid
  have onlyFields : GoalDefinition.OnlyFields goal.toEntries := GoalDefinition.onlyFields_of_keys rfl
  have areNames : goal.toEntries.names = GoalDefinition.fieldNames := rfl
  refine ⟨onlyFields.onlyNames, ?_, fun entry member =>
    (stores.isDocument_toEntries entry member).hasDocument⟩
  rw [areNames]
  decide

/-- Every field that the changes name is the definition's, as it is written out, and every other is as
it was. -/
structure Overridden (goal : Goal) (changes : Entries) (definition : GoalDefinition) (changed : Goal) :
    Prop where
  named : ∀ name ∈ changes.names,
    (definition.toEntries.field name).document? = some (changed.toEntries.field name)
  others : ∀ name ∉ changes.names, changed.toEntries.field name = goal.toEntries.field name

/-- What keeps an update from giving a field what the definition has there, or from telling what is
wrong with the definition. -/
inductive Deviates (goal : Goal) (changes : Entries) : Prop where
  | stepType (stops : GoalDefinition.StopsAtStep (goal.toEntries.merge changes))
  | documentKept {definition : GoalDefinition} {name : String}
      (valid : (GoalDefinition.validate (goal.toEntries.merge changes)).result = .ok definition)
      (isNamed : name ∈ changes.names) (isDocument : name = "conditions" ∨ name = "funnel_steps")
      (same : (goal.toEntries.field name).equals (definition.toEntries.field name) = true)
      (differs : (definition.toEntries.field name).document? ≠ some (goal.toEntries.field name))
  | numberLost {definition : GoalDefinition} {number : Binary64}
      (valid : (GoalDefinition.validate (goal.toEntries.merge changes)).result = .ok definition)
      (isNamed : "fixed_value" ∈ changes.names) (isNumber : definition.fixedValue = some number)
      (differs : Column.keptNumber number ≠ some number)

theorem StoresValid.overwritten_self {goal : Goal} (valid : goal.StoresValid) (name : String) :
    Column.overwritten name (goal.toEntries.field name) (goal.toEntries.field name) =
      .ok (goal.toEntries.field name) := by
  obtain ⟨own, _, writtenOut, unchanged, _⟩ := valid.exists_definition
  have kept := field_revised unchanged name
  rw [writtenOut] at kept
  exact kept

section

variable {goal : Goal} {changes : Entries} (valid : goal.StoresValid) (object : changes.IsObject)
  (validated : (GoalDefinition.validate (goal.toEntries.merge changes)).result = .ok definition)

include valid object validated

theorem field?_of_unnamed {name : String} (unnamed : name ∉ changes.names) :
    definition.toEntries.field? name = goal.toEntries.field? name := by
  obtain ⟨own, wellFormed, writtenOut, _, _⟩ := valid.exists_definition
  have readsOwn := wellFormed.isReadFrom own.isPresentedBy_toEntries
  obtain ⟨_, reads, _⟩ := (GoalDefinition.validate_eq_ok_iff _ _).mp validated
  rw [← writtenOut]
  refine ((GoalDefinition.ofEntries_eq_valid_iff _ _).mp reads).field?_congr readsOwn ?_
  rw [object.field?_merge, (Entries.field?_eq_none_iff changes name).mpr unnamed, writtenOut]
  rfl

theorem siteFits_of_validated (siteFits : changes.SiteFits) : definition.SiteFits := by
  intro site isSite
  by_cases named : "site_id" ∈ changes.names
  · have isThere : changes.field? "site_id" ≠ none := fun isNone =>
      (Entries.field?_eq_none_iff changes _).mp isNone named
    obtain ⟨value, found⟩ := Option.ne_none_iff_exists'.mp isThere
    have foundMerged : (goal.toEntries.merge changes).field? "site_id" = some value := by
      rw [object.field?_merge, found, Option.some_or]
    obtain ⟨_, reads, _⟩ := (GoalDefinition.validate_eq_ok_iff _ _).mp validated
    have readsSite := ((GoalDefinition.ofEntries_eq_valid_iff _ _).mp reads).siteId
    rcases (Entries.optional_eq_valid_iff _ _ _ _).mp readsSite with
      ⟨_, isNone⟩ | ⟨_, content, isFound, _, readsContent, isSome⟩
    · rw [isSite] at isNone
      contradiction
    · obtain rfl := Option.some.inj (foundMerged.symm.trans isFound)
      obtain rfl := Option.some.inj (isSome.symm.trans isSite)
      exact checkWord_of_isWord
        (siteFits value content found ((Checked.ofReading_eq_valid_iff _ _ _).mp readsContent))
  · have same := field?_of_unnamed valid object validated named
    obtain ⟨_, _, _, stores⟩ := valid
    rw [definition.writesOut_toEntries.siteId, isSite] at same
    refine stores.siteFits site ?_
    cases goalSite : goal.siteId with
    | none => simp [toEntries, goalSite] at same
    | some other => simpa [toEntries, goalSite, eq_comm] using same

theorem exists_revised_of_validated (siteFits : changes.SiteFits) :
    ∃ changed, goal.revised definition = .ok changed := by
  have merged := valid.isObject_toEntries.merge object
  have definitionFits := siteFits_of_validated valid object validated siteFits
  obtain ⟨_, _, _, stores⟩ := valid
  obtain ⟨_, reads, _⟩ := (GoalDefinition.validate_eq_ok_iff _ _).mp validated
  have isRead := (GoalDefinition.ofEntries_eq_valid_iff _ _).mp reads
  have storedIff := storedIff_revised ⟨stores.conditions.isDocument, stores.funnelSteps.isDocument⟩
    (GoalDefinition.isDecimalFree_of_reads isRead merged.not_hasDecimal)
  exact storedIff.exists_ok_iff.mpr
    ⟨GoalDefinition.isStorable_of_reads isRead merged.written, definitionFits⟩

variable (made : goal.revised definition = .ok changed)

include made

theorem field_of_unnamed {name : String} (unnamed : name ∉ changes.names) :
    changed.toEntries.field name = goal.toEntries.field name := by
  have overwritten := field_revised made name
  rw [Entries.field_eq definition.toEntries,
    field?_of_unnamed valid object validated unnamed, ← Entries.field_eq,
    valid.overwritten_self name] at overwritten
  exact (Except.ok.inj overwritten).symm

theorem overridden_iff : goal.Overridden changes definition changed ↔ ¬goal.Deviates changes := by
  have same {other : GoalDefinition}
      (isOther : (GoalDefinition.validate (goal.toEntries.merge changes)).result = .ok other) :
      other = definition := Except.ok.inj (isOther.symm.trans validated)
  constructor
  · rintro overridden (stops | @⟨_, name, isOther, isNamed, isDocument, isEqual, differs⟩ |
      @⟨_, number, isOther, isNamed, isNumber, differs⟩)
    · rw [GoalDefinition.result_validate_of_stopsAtStep stops] at validated
      contradiction
    · obtain rfl := same isOther
      have kept := field_revised made name
      rw [Column.overwritten, if_pos isDocument, Column.rewritten, if_pos isEqual] at kept
      exact differs (Except.ok.inj kept ▸ overridden.named name isNamed)
    · obtain rfl := same isOther
      have kept := field_revised made "fixed_value"
      have isWritten := overridden.named "fixed_value" isNamed
      rw [GoalDefinition.field_fixedValue, isNumber] at kept isWritten
      have isKept := (Except.ok.inj kept).trans (Option.some.inj isWritten).symm
      exact differs ((Column.keptValue_float_eq_iff number).mp isKept)
  · intro keeps
    refine ⟨fun name isNamed => ?_, fun name => field_of_unnamed valid object validated made⟩
    obtain ⟨_, _, _, wasStored⟩ := valid
    have isDocument := (stores_of_revised wasStored made).isDocument_field name
    rcases Column.written_or_kept isDocument (field_revised made name) with
      isWritten | ⟨hasDocument, isEqual, isKept⟩ | ⟨rfl, number, isNumber, differs⟩
    · exact isWritten
    · rw [isKept]
      by_contra differs
      exact keeps (.documentKept validated isNamed hasDocument isEqual differs)
    · rw [GoalDefinition.field_fixedValue] at isNumber
      cases fixed : definition.fixedValue with
      | none => simp [fixed] at isNumber
      | some other =>
          obtain rfl : other = number := by simpa [fixed] using isNumber
          exact absurd (.numberLost validated isNamed fixed differs) keeps

end

end Goal

namespace Goals

variable {scope : Scope} {database : Database} {fault : Fault}

theorem after_create_of_error {attributes : Entries}
    (failed : (create scope attributes).result database = .error fault) :
    (create scope attributes).after database = database := by
  rw [after_create, failed]

theorem after_update_of_error {target : Target} {changes : Entries}
    (failed : (update scope target changes).result database = .error fault) :
    (update scope target changes).after database = database := by
  rw [result_update] at failed
  rw [after_update]
  split
  · rename_i goal found
    rw [found] at failed
    dsimp only at failed
    rw [after_updateGoal]
    cases updated : (updateGoal goal changes).result database with
    | error _ => rfl
    | ok changed =>
        rw [updated] at failed
        contradiction
  · rfl

theorem resolve_eq_some (distinct : database.GoalIdsDistinct) (scopeFits : scope.FitsWord)
    {goal : Goal} (held : goal ∈ database.goals) (isWord : IsWord goal.id)
    (within : goal.IsWithin scope) {target : Target}
    (isTarget : target = .id goal.id ∨ target = .goal (some goal)) :
    (resolve scope target).result database = .ok (some goal) := by
  rcases isTarget with rfl | rfl
  · obtain ⟨stored, isHeld, sameId, _, resolved⟩ :=
      exists_resolve_id scopeFits isWord ⟨goal, held, rfl, within⟩
    obtain rfl := List.inj_on_of_nodup_map distinct isHeld held sameId
    exact resolved
  · rfl

/-- An update either gives the fields that the changes name their new values, and no others, or tells
what is wrong and changes nothing. -/
def Overrides (database : Database) (update : Work (Option Goal)) (goal : Goal) (changes : Entries) :
    Prop :=
  (∃ definition changed after,
    (GoalDefinition.validate (goal.toEntries.merge changes)).result = .ok definition ∧
    update.Ends database (some changed) after ∧ database.ChangesRow goal.id (some changed) after ∧
    goal.Overridden changes definition changed) ∨
  (∃ cause, update.result database = .error (.definition cause)) ∧ update.after database = database

section

variable {goal : Goal} {target : Target} {changes : Entries} (valid : goal.StoresValid)
  (resolved : (resolve scope target).result database = .ok (some goal)) (object : changes.IsObject)

include resolved

theorem result_update_resolved : (update scope target changes).result database =
    ((GoalDefinition.validate (goal.toEntries.merge changes)).result.bind goal.revised).map some := by
  rw [result_update, resolved]
  dsimp only
  rw [result_updateGoal]

include valid object

theorem field_of_update {changed : Goal}
    (updated : (update scope target changes).result database = .ok (some changed)) {name : String}
    (unnamed : name ∉ changes.names) :
    changed.toEntries.field name = goal.toEntries.field name := by
  rw [result_update_resolved resolved] at updated
  cases validated : (GoalDefinition.validate (goal.toEntries.merge changes)).result with
  | error fault =>
      rw [validated] at updated
      contradiction
  | ok definition =>
      rw [validated, Except.bind] at updated
      cases made : goal.revised definition with
      | error fault =>
          rw [made] at updated
          contradiction
      | ok other =>
          rw [made] at updated
          obtain rfl : other = changed := Option.some.inj (Except.ok.inj updated)
          exact Goal.field_of_unnamed valid object validated made unnamed

theorem overrides_iff (held : goal ∈ database.goals) (siteFits : changes.SiteFits) :
    Overrides database (update scope target changes) goal changes ↔ ¬goal.Deviates changes := by
  have result : (update scope target changes).result database = _ := result_update_resolved resolved
  have merged := valid.isObject_toEntries.merge object
  rcases GoalDefinition.told_or_stopsAtStep merged.areWritable merged.onlyNames with
    ⟨⟨definition, validated⟩ | ⟨cause, refused⟩, notStopped⟩ | ⟨stopped, stops⟩
  · obtain ⟨changed, made⟩ := Goal.exists_revised_of_validated valid object validated siteFits
    rw [validated, Except.bind, made] at result
    rw [← Goal.overridden_iff valid object validated made]
    constructor
    · rintro (⟨_, _, _, isValid, ends, _, overridden⟩ | ⟨⟨cause, refused⟩, _⟩)
      · obtain rfl := Except.ok.inj (validated.symm.trans isValid)
        obtain rfl := Option.some.inj (Except.ok.inj (result.symm.trans ends.result))
        exact overridden
      · rw [result] at refused
        contradiction
    · intro overridden
      refine Or.inl ⟨definition, changed, database.replaceGoal changed, validated, ⟨result, ?_⟩,
        Database.changesRow_replaceGoal held (Goal.id_of_revised made), overridden⟩
      rw [after_update, resolved]
      dsimp only
      rw [after_updateGoal, result_updateGoal, validated, Except.bind, made]
  · rw [refused, Except.bind] at result
    refine iff_of_true (Or.inr ⟨⟨cause, result⟩, after_update_of_error result⟩) ?_
    rintro (stops | ⟨isValid, _, _, _, _⟩ | ⟨isValid, _, _, _⟩)
    · exact notStopped stops
    · rw [refused] at isValid
      contradiction
    · rw [refused] at isValid
      contradiction
  · rw [stopped, Except.bind] at result
    refine iff_of_false ?_ (not_not.mpr (.stepType stops))
    rintro (⟨_, _, _, isValid, _⟩ | ⟨⟨cause, refused⟩, _⟩)
    · rw [stopped] at isValid
      contradiction
    · rw [result] at refused
      cases refused

end

end Goals

namespace Operation

/-- An update of a stored goal gives the fields that are named their new values and no others, or tells
what is wrong and changes nothing, unless a step's type cannot be looked up, a document that equals the
new one stays, or a number is not kept as it is. The fields that are not named stay as they are in any
case, and whatever makes a creation or an update fail, it changes nothing. -/
theorem update_overrides_iff {ids : IdDraw} (operations : List Operation) {goal : Goal}
    (isStored : goal ∈ (run operations (.empty ids)).goals) {scope : Scope} (scopeFits : scope.FitsWord)
    (isWord : IsWord goal.id) (within : goal.IsWithin scope) {target : Goals.Target}
    (isTarget : target = .id goal.id ∨ target = .goal (some goal)) {changes : Entries}
    (object : changes.IsObject) (siteFits : changes.SiteFits) :
    let database := run operations (.empty ids)
    let update := Goals.update scope target changes
    (Goals.Overrides database update goal changes ↔ ¬goal.Deviates changes) ∧
      (∀ changed, update.result database = .ok (some changed) →
        ∀ name ∉ changes.names, changed.toEntries.field name = goal.toEntries.field name) ∧
      ∀ scope attributes target fault,
        ((Goals.create scope attributes).result database = .error fault →
          (Goals.create scope attributes).after database = database) ∧
        ((Goals.update scope target attributes).result database = .error fault →
          (Goals.update scope target attributes).after database = database) := by
  intro database update
  have valid := storesValid_run operations (Database.storesValid_empty ids) goal isStored
  have distinct := (regular_run operations (Database.regular_empty ids)).idsDistinct
  have resolved := Goals.resolve_eq_some distinct scopeFits isStored isWord within isTarget
  refine ⟨Goals.overrides_iff valid resolved object isStored siteFits, ?_, ?_⟩
  · intro changed updated name unnamed
    exact Goals.field_of_update valid resolved object updated unnamed
  · intro scope attributes target fault
    exact ⟨Goals.after_create_of_error, Goals.after_update_of_error⟩

theorem exists_created_signup : ∃ goal ∈ (run [createSignup] .empty).goals, IsWord goal.id := by
  obtain ⟨goal, isStored⟩ :=
    List.exists_mem_of_length_pos (l := (run [createSignup] .empty).goals) (by decide +kernel)
  have areWords : ∀ goal ∈ (run [createSignup] .empty).goals, IsWord goal.id := by decide +kernel
  exact ⟨goal, isStored, areWords goal isStored⟩

def newName : Entries := [(.text "name", .text "Sign up"), (.text "is_active", .bool false)]

theorem signup_renamed :
    ∃ goal ∈ (run [createSignup] .empty).goals, ∃ definition changed after,
      (Goals.update .everything (.id goal.id) newName).Ends (run [createSignup] .empty) (some changed)
        after ∧ goal.Overridden newName definition changed := by
  obtain ⟨goal, isStored, isWord⟩ := exists_created_signup
  have validates : ∀ goal ∈ (run [createSignup] .empty).goals,
      (GoalDefinition.validate (goal.toEntries.merge newName)).result.isOk = true ∧
        ((Goals.update .everything (.id goal.id) newName).result (run [createSignup] .empty)).isOk =
          true := by
    decide +kernel
  obtain ⟨isValid, succeeds⟩ := validates goal isStored
  have object : newName.IsObject := by
    refine ⟨by simp [GoalDefinition.OnlyNames, newName], by decide, ?_⟩
    simp only [newName, List.forall_mem_cons]
    exact ⟨⟨_, rfl⟩, ⟨_, rfl⟩, List.forall_mem_nil _⟩
  have siteFits : newName.SiteFits := by
    intro value site found
    simp [newName] at found
  have keeps : ¬goal.Deviates newName := by
    rintro (stops | ⟨_, isNamed, rfl | rfl, _, _⟩ | ⟨_, isNamed, _, _⟩)
    · rw [GoalDefinition.result_validate_of_stopsAtStep stops] at isValid
      contradiction
    · exact absurd isNamed (by decide)
    · exact absurd isNamed (by decide)
    · exact absurd isNamed (by decide)
  have overrides := (update_overrides_iff [createSignup] isStored Scope.fitsWord_everything
    isWord goal.isWithin_everything (Or.inl rfl) object siteFits).1.mpr keeps
  rcases overrides with ⟨definition, changed, after, _, ends, _, overridden⟩ | ⟨⟨_, refused⟩, _⟩
  · exact ⟨goal, isStored, definition, changed, after, ends, overridden⟩
  · rw [refused] at succeeds
    contradiction

def listedSteps : Entries := [(.text "funnel_steps", .list [GoalDefinition.listedStep])]

/-- An update with a step whose type is a list neither gives a stored signup the step nor tells what is
wrong. -/
theorem listed_step_stops_update :
    listedSteps.IsObject ∧ listedSteps.SiteFits ∧
      ∃ goal ∈ (run [createSignup] .empty).goals, IsWord goal.id ∧ goal.IsWithin .everything ∧
        ¬Goals.Overrides (run [createSignup] .empty) (Goals.update .everything (.id goal.id) listedSteps)
          goal listedSteps := by
  obtain ⟨goal, isStored, isWord⟩ := exists_created_signup
  have stopped : ∀ goal ∈ (run [createSignup] .empty).goals,
      (GoalDefinition.validate (goal.toEntries.merge listedSteps)).result.map (fun _ => ()) =
          .error .kindMismatch ∧
        ((Goals.update .everything (.id goal.id) listedSteps).result (run [createSignup] .empty)).map
          (fun _ => ()) = .error .kindMismatch := by
    decide +kernel
  refine ⟨⟨by simp [GoalDefinition.OnlyNames, listedSteps], by decide, ?_⟩, ?_, goal, isStored,
    isWord, goal.isWithin_everything, ?_⟩
  · simp only [listedSteps, List.forall_mem_cons]
    exact ⟨⟨_, rfl⟩, List.forall_mem_nil _⟩
  · intro value site found
    simp [listedSteps] at found
  · obtain ⟨invalid, failed⟩ := stopped goal isStored
    rintro (⟨_, _, _, isValid, _⟩ | ⟨⟨_, refused⟩, _⟩)
    · rw [isValid] at invalid
      contradiction
    · rw [refused] at failed
      cases failed

end Operation

end ConversionTracking
