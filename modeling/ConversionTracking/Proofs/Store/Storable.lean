import ConversionTracking.Proofs.Store.Definitions
import ConversionTracking.Proofs.Value.Decimals

/-!
Definitions that can be stored: their documents can be written and their site fits its column. For
definitions without decimals it makes no difference whether a row with other documents is there
already.
-/

namespace ConversionTracking

namespace FieldKind

theorem not_hasDecimal_of_fields {value : Value} {entries : Fields}
    (reads : fields value = .valid entries) (noDecimal : ¬value.HasDecimal) :
    ¬entries.toValue.HasDecimal := by
  have ofFields : ∀ field ∈ entries, ¬field.2.HasDecimal := by
    refine forall_of_fields (fun value => ¬value.HasDecimal) reads fun pairs isMap pair member has => ?_
    exact noDecimal (isMap ▸ .inValue member has)
  rw [Fields.toValue_eq, Value.not_hasDecimal_map_iff, Fields.toEntries, List.forall_mem_map]
  exact fun field isField => ⟨Value.not_hasDecimal_text _, ofFields field isField⟩

theorem not_hasDecimal_of_items {value : Value} {steps : List Fields}
    (reads : items fields value = .valid steps) (noDecimal : ¬value.HasDecimal) :
    ∀ step ∈ steps, ¬step.toValue.HasDecimal := by
  obtain ⟨values, areValues, areRead⟩ := exists_value_of_items reads
  intro step isStep
  obtain ⟨item, isItem, readsItem⟩ := areRead step isStep
  refine not_hasDecimal_of_fields readsItem ?_
  rcases areValues with rfl | rfl | rfl
  · exact (Value.not_hasDecimal_list_iff values).mp noDecimal item isItem
  · exact (Value.not_hasDecimal_tuple_iff values).mp noDecimal item isItem
  · exact (Value.not_hasDecimal_set_iff values).mp noDecimal item isItem

end FieldKind

theorem Entries.not_hasDecimal_of_field? {entries : Entries} {name : String} {value : Value}
    (found : entries.field? name = some value) (noDecimal : ¬(Value.map entries).HasDecimal) :
    ¬value.HasDecimal :=
  fun has => noDecimal (.inValue (Entries.mem_of_field? found) has)

namespace GoalDefinition

structure IsDecimalFree (definition : GoalDefinition) : Prop where
  conditions : ¬definition.conditions.toValue.HasDecimal
  steps : ¬definition.stepsValue.HasDecimal

theorem isDecimalFree_of_reads {attributes : Entries} {definition : GoalDefinition}
    (reads : definition.IsReadFrom attributes) (noDecimal : ¬(Value.map attributes).HasDecimal) :
    definition.IsDecimalFree := by
  constructor
  · rcases (Entries.withDefault_eq_valid_iff _ _ _ _ _).mp reads.conditions with
      ⟨_, isEmpty⟩ | ⟨value, found, readsValue⟩
    · rw [← isEmpty, Fields.toValue_eq, Value.not_hasDecimal_map_iff]
      exact List.forall_mem_nil _
    · exact FieldKind.not_hasDecimal_of_fields readsValue
        (Entries.not_hasDecimal_of_field? found noDecimal)
  · unfold stepsValue
    rcases (Entries.optional_eq_valid_iff _ _ _ _).mp reads.funnelSteps with
      ⟨_, isNone⟩ | ⟨value, steps, found, _, readsSteps, isSome⟩
    · rw [isNone]
      exact Value.not_hasDecimal_null
    · rw [isSome, Option.map_some, Option.getD_some, Value.not_hasDecimal_list_iff,
        List.forall_mem_map]
      exact FieldKind.not_hasDecimal_of_items readsSteps
        (Entries.not_hasDecimal_of_field? found noDecimal)

structure IsStorable (definition : GoalDefinition) : Prop where
  conditions : ∃ written, definition.conditions.toValue.document? = some written
  steps : ∃ written, definition.stepsValue.document? = some written

def SiteFits (definition : GoalDefinition) : Prop :=
  ∀ site, definition.siteId = some site → checkWord site = .ok ()

end GoalDefinition

/-- There is a result exactly when something holds, and what fails otherwise is the storing. -/
inductive StoredIff {α : Type} (possible : Prop) : Except Fault α → Prop where
  | stored (holds : possible) (value : α) : StoredIff possible (.ok value)
  | notStorable (fails : ¬possible) : StoredIff possible (.error .notStorable)
  | beyondColumn (fails : ¬possible) : StoredIff possible (.error .beyondColumn)

namespace StoredIff

variable {α β : Type} {possible other : Prop}

theorem exists_ok_iff {result : Except Fault α} (stored : StoredIff possible result) :
    (∃ value, result = .ok value) ↔ possible := by
  cases stored with
  | stored holds value => exact iff_of_true ⟨value, rfl⟩ holds
  | notStorable fails | beyondColumn fails => exact iff_of_false (by simp) fails

theorem congr {result : Except Fault α} (same : possible ↔ other)
    (stored : StoredIff possible result) : StoredIff other result :=
  propext same ▸ stored

theorem map (change : α → β) {result : Except Fault α} (stored : StoredIff possible result) :
    StoredIff possible (result.map change) := by
  cases stored with
  | stored holds value => exact .stored holds (change value)
  | notStorable fails => exact .notStorable fails
  | beyondColumn fails => exact .beyondColumn fails

theorem bind {first : Except Fault α} {next : α → Except Fault β} (stored : StoredIff possible first)
    (restStored : ∀ value, first = .ok value → StoredIff other (next value)) :
    StoredIff (possible ∧ other) (first >>= next) := by
  cases stored with
  | stored holds value =>
      exact (restStored value rfl).congr ⟨fun rest => ⟨holds, rest⟩, And.right⟩
  | notStorable fails => exact .notStorable fun both => fails both.1
  | beyondColumn fails => exact .beyondColumn fun both => fails both.1

end StoredIff

theorem storedIff_checkWord (value : Int) : StoredIff (checkWord value = .ok ()) (checkWord value) := by
  unfold checkWord
  split
  · exact .stored rfl ()
  · exact .beyondColumn (by simp)

namespace Column

theorem storedIff_document (value : Value) :
    StoredIff (∃ written, value.document? = some written) (document value) := by
  unfold document
  cases value.document? with
  | some written => exact .stored ⟨written, rfl⟩ written
  | none => exact .notStorable (by simp)

theorem storedIff_rewritten {stored changed : Value} (isDocument : stored.IsDocument)
    (noDecimal : ¬changed.HasDecimal) :
    StoredIff (∃ written, changed.document? = some written) (rewritten stored changed) := by
  unfold rewritten
  split
  · rename_i same
    exact .stored ⟨_, Value.isDocument_of_equals changed isDocument same noDecimal⟩ stored
  · exact storedIff_document changed

end Column

namespace Goal

theorem storedIff_ofParts (id : Int) (definition : GoalDefinition) (conditions funnelSteps : Value) :
    StoredIff definition.SiteFits (ofParts id definition conditions funnelSteps) := by
  unfold ofParts GoalDefinition.SiteFits
  cases definition.siteId with
  | none => exact .stored (by simp) _
  | some site =>
      refine StoredIff.congr ?_ ((storedIff_checkWord site).bind fun _ _ => .stored trivial _)
      simp

theorem storedIff_ofDefinition (id : Int) (definition : GoalDefinition) :
    StoredIff (definition.IsStorable ∧ definition.SiteFits) (ofDefinition id definition) := by
  refine ((Column.storedIff_document _).bind fun _ _ =>
    (Column.storedIff_document _).bind fun _ _ => storedIff_ofParts id definition _ _).congr ?_
  rw [← and_assoc]
  exact and_congr_left fun _ => ⟨fun both => ⟨both.1, both.2⟩,
    fun storable => ⟨storable.conditions, storable.steps⟩⟩

theorem storedIff_revised {stored : Goal} {definition : GoalDefinition}
    (areDocuments : stored.conditions.IsDocument ∧ stored.funnelSteps.IsDocument)
    (decimalFree : definition.IsDecimalFree) :
    StoredIff (definition.IsStorable ∧ definition.SiteFits) (stored.revised definition) := by
  refine ((Column.storedIff_rewritten areDocuments.1 decimalFree.conditions).bind fun _ _ =>
    (Column.storedIff_rewritten areDocuments.2 decimalFree.steps).bind fun _ _ =>
      storedIff_ofParts stored.id definition _ _).congr ?_
  rw [← and_assoc]
  exact and_congr_left fun _ => ⟨fun both => ⟨both.1, both.2⟩,
    fun storable => ⟨storable.conditions, storable.steps⟩⟩

end Goal

end ConversionTracking
