import ConversionTracking.Proofs.Value.Document

/-!
What a row holds for a value that it is given: the value as a document, or the document that the row
had when that equals the value. Either has the shape of the value, and under every plain name it has
what stands for the value's own.
-/

namespace ConversionTracking

namespace Column

/-- The content stands in a document column for the value. -/
inductive Holds (value content : Value) : Prop where
  | written (isWritten : value.document? = some content)
  | equal (isDocument : content.IsDocument) (same : content.equals value = true)

theorem document_eq_ok_iff (value content : Value) :
    document value = .ok content ↔ value.document? = some content := by
  unfold document
  cases value.document? <;> simp

theorem holds_of_document {value content : Value} (isWritten : document value = .ok content) :
    Holds value content := .written ((document_eq_ok_iff _ _).mp isWritten)

theorem rewritten_self {content : Value} (isDocument : content.IsDocument) :
    rewritten content content = .ok content := by
  unfold rewritten
  split
  · rfl
  · exact (document_eq_ok_iff _ _).mpr isDocument

theorem holds_of_rewritten {stored changed content : Value} (isDocument : stored.IsDocument)
    (isWritten : rewritten stored changed = .ok content) : Holds changed content := by
  unfold rewritten at isWritten
  split at isWritten
  · rename_i same
    obtain rfl := Except.ok.inj isWritten
    exact .equal isDocument same
  · exact holds_of_document isWritten

end Column

def Entries.HeldBy (entries contents : Entries) : Prop :=
  ∀ name, Value.isPlainName name = true →
    Option.Rel Column.Holds (entries.field? name) (contents.field? name)

namespace Column

namespace Holds

variable {value content : Value}

theorem null : Holds .null .null := .written rfl

theorem text (name : String) : Holds (.text name) (.text name) := .written rfl

theorem isDocument (holds : Holds value content) : content.IsDocument := by
  cases holds with
  | written isWritten => exact Value.isDocument_of_document? value content isWritten
  | equal isDocument _ => exact isDocument

theorem eq_null_iff (holds : Holds value content) : content = .null ↔ value = .null := by
  cases holds with
  | written isWritten =>
      constructor
      · rintro rfl
        cases value <;> simp_all [Value.document?]
      · rintro rfl
        exact (Option.some.inj isWritten).symm
  | equal isDocument same =>
      constructor
      · rintro rfl
        exact (Value.null_equals_iff value).mp same
      · rintro rfl
        cases content <;> simp [Value.equals, Value.equalScalars, Value.numeric?] at same ⊢

theorem eq_text_iff (holds : Holds value content) (text : String) :
    content = .text text ↔ value = .text text := by
  cases holds with
  | written isWritten =>
      constructor
      · rintro rfl
        cases value <;> simp_all [Value.document?]
      · rintro rfl
        exact (Option.some.inj isWritten).symm
  | equal isDocument same =>
      constructor
      · rintro rfl
        exact (Value.text_equals_iff text value).mp same
      · rintro rfl
        exact (Value.equals_text_iff content text).mp same

theorem of_map {entries : Entries} (holds : Holds (.map entries) content) :
    ∃ fields : Fields, fields.Distinct ∧ content = fields.toValue ∧
      (Entries.ofList entries).HeldBy fields.toEntries := by
  cases holds with
  | written isWritten =>
      obtain ⟨fields, areWritten, rfl⟩ := (Value.document?_map_eq_some_iff _ _).mp isWritten
      refine ⟨Fields.ofList fields, Fields.distinct_ofList fields, rfl, fun name isPlain => ?_⟩
      rw [← Fields.ofList_toEntries, Entries.field?_ofList, Entries.field?_ofList,
        Fields.toEntries, ← List.map_reverse]
      have rel := Value.field?_of_writtenFields (List.rel_reverse areWritten) isPlain
      exact Option.Rel.imp rel fun _ _ _ _ => .written
  | equal isDocument same =>
      cases content with
      | map contents =>
          obtain ⟨fields, distinct, rfl, areDocuments⟩ :=
            (Value.isDocument_map_iff contents).mp isDocument
          obtain ⟨_, once, found⟩ := Value.field?_of_map_equals distinct same
          refine ⟨fields, distinct, rfl, fun name _ => ?_⟩
          rw [Entries.field?_ofList, Entries.field?_reverse once]
          refine Option.Rel.imp (Option.Rel.flip (found name)) fun value field _ isField sameValue => ?_
          exact .equal (areDocuments _ (Fields.mem_of_field? isField)) sameValue
      | _ => simp [Value.equals, Value.equalScalars, Value.numeric?] at same

theorem of_list {items : List Value} (holds : Holds (.list items) content) :
    ∃ contents, content = .list contents ∧ List.Forall₂ Holds items contents := by
  cases holds with
  | written isWritten =>
      obtain ⟨contents, areWritten, rfl⟩ := (Value.document?_list_eq_some_iff _ _).mp isWritten
      exact ⟨contents, rfl, areWritten.imp fun _ _ => .written⟩
  | equal isDocument same =>
      cases content with
      | list contents =>
          obtain ⟨others, sameItems, areEqual⟩ := (Value.list_equals_iff _ _).mp same
          obtain rfl := Value.list.inj sameItems
          have areDocuments := (Value.isDocument_list_iff contents).mp isDocument
          have both := (List.forall₂_and_left _ _).mpr ⟨areDocuments, areEqual⟩
          refine ⟨contents, rfl, List.Forall₂.flip (both.imp fun _ _ holds => ?_)⟩
          exact .equal holds.1 holds.2
      | _ => simp [Value.equals, Value.equalScalars, Value.numeric?] at same

theorem map_of_map {entries : Entries} (holds : Holds value (.map entries)) :
    ∃ others, value = .map others ∧ (entries = [] ↔ others = []) := by
  cases holds with
  | written isWritten =>
      cases value with
      | map others =>
          obtain ⟨fields, areWritten, same⟩ := (Value.document?_map_eq_some_iff _ _).mp isWritten
          refine ⟨others, rfl, ?_⟩
          rw [Value.map.inj same, List.map_eq_nil_iff, Fields.ofList_eq_nil_iff,
            ← List.length_eq_zero_iff, ← List.length_eq_zero_iff, areWritten.length_eq]
      | _ => simp_all [Value.document?]
  | equal isDocument same =>
      cases value with
      | map others =>
          rw [Value.equals, Bool.and_eq_true, beq_iff_eq] at same
          exact ⟨others, rfl, by rw [← List.length_eq_zero_iff, ← List.length_eq_zero_iff, same.1]⟩
      | _ => simp [Value.equals] at same

theorem of_toValue {fields : Fields} (distinct : fields.Distinct)
    (holds : Holds fields.toValue content) :
    ∃ contents : Fields, contents.Distinct ∧ content = contents.toValue ∧
      fields.toEntries.HeldBy contents.toEntries := by
  have ofEntries : Holds (.map fields.toEntries) content := holds
  obtain ⟨contents, isDistinct, isContent, held⟩ := of_map ofEntries
  rw [Fields.ofList_toEntries, Fields.ofList_of_distinct distinct] at held
  exact ⟨contents, isDistinct, isContent, held⟩

theorem list_of_list {items : List Value} (holds : Holds value (.list items)) :
    ∃ others, (value = .list others ∨ value = .tuple others) ∧ others.length = items.length := by
  cases holds with
  | written isWritten =>
      cases value <;> simp_all [Value.document?, Value.documents?_eq_some_iff]
      · exact isWritten.length_eq
      · exact isWritten.length_eq
  | equal isDocument same =>
      obtain ⟨others, rfl, areEqual⟩ := (Value.list_equals_iff _ _).mp same
      exact ⟨others, Or.inl rfl, areEqual.length_eq.symm⟩

theorem numeric? (holds : Holds value content) {number : Value.Numeric}
    (isNumber : content.numeric? = some number) :
    ∃ other, value.numeric? = some other ∧ number.rational? = other.rational? := by
  cases holds with
  | written isWritten =>
      suffices value = content from ⟨number, this ▸ isNumber, rfl⟩
      cases value with
      | null | bool _ | float _ | text _ => exact Option.some.inj isWritten
      | int whole =>
          simp only [Value.document?, Option.ite_none_right_eq_some, Option.some.injEq] at isWritten
          exact isWritten.2
      | list items | tuple items =>
          obtain ⟨_, _, rfl⟩ := Option.map_eq_some_iff.mp isWritten
          contradiction
      | map entries =>
          obtain ⟨_, _, rfl⟩ := Option.map_eq_some_iff.mp isWritten
          contradiction
      | _ => simp [Value.document?] at isWritten
  | equal _ same => exact Value.numeric?_of_equals isNumber same

theorem isGiven_eq (holds : Holds value content) : content.isGiven = value.isGiven := by
  cases content with
  | null => rw [holds.eq_null_iff.mp rfl]
  | text text => rw [(holds.eq_text_iff text).mp rfl]
  | bool _ | int _ | float _ =>
      obtain ⟨other, isNumber, sameValue⟩ := holds.numeric? rfl
      rw [Bool.eq_iff_iff, Value.isGiven_iff rfl, Value.isGiven_iff isNumber, sameValue]
  | list items =>
      obtain ⟨others, rfl | rfl, sameLength⟩ := holds.list_of_list
      · cases others <;> cases items <;> simp_all [Value.isGiven]
      · cases others <;> cases items <;> simp_all [Value.isGiven]
  | map entries =>
      obtain ⟨others, rfl, sameEmptiness⟩ := holds.map_of_map
      rw [Value.isGiven, Value.isGiven, Bool.eq_iff_iff]
      simp [sameEmptiness]
  | _ =>
      have isDocument := holds.isDocument
      simp [Value.IsDocument, Value.document?] at isDocument

end Holds

end Column

end ConversionTracking
