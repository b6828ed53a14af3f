import ConversionTracking.Proofs.Value.Entries
import ConversionTracking.Proofs.Value.Numeric
import ConversionTracking.Store.Column
import Mathlib.Data.List.Forall2
import Mathlib.Data.List.Perm.Subperm

/-!
Values as documents keep them: what is read back from a document is written as it is, and a value
that a document keeps is found under the same names. A stored document that equals a new value is
kept in its place.
-/

namespace ConversionTracking

def isNameChar (char : Char) : Bool := char.isLower || char == '_'

theorem isNameChar_of_isDigit {char : Char} (isDigit : char.isDigit = true) :
    isNameChar char = false := by
  have differs : char ≠ '_' := by
    rintro rfl
    contradiction
  have isLower_iff : char.isLower = true ↔ 'a'.val ≤ char.val ∧ char.val ≤ 'z'.val := by
    change (decide _ && decide _) = true ↔ _
    simp only [ge_iff_le, Bool.and_eq_true, decide_eq_true_eq]
  rw [isNameChar, Bool.or_eq_false_iff, ← Bool.not_eq_true, isLower_iff, beq_eq_false_iff_ne]
  refine ⟨?_, differs⟩
  simp only [Char.isDigit, Bool.and_eq_true, decide_eq_true_eq] at isDigit
  grind

theorem exists_mem_intText (value : Int) :
    ∃ char ∈ (intText value).toList, isNameChar char = false := by
  obtain ⟨digit, member⟩ :=
    List.exists_mem_of_ne_nil _ (Nat.toDigits_ne_nil (n := value.natAbs) (b := 10))
  have isDigit := Nat.isDigit_of_mem_toDigits (by decide) (by decide) member
  have inText : digit ∈ (decimalText value.natAbs).toList := by
    rw [decimalText, decimalDigits, String.toList_ofList]
    exact member
  refine ⟨digit, ?_, isNameChar_of_isDigit isDigit⟩
  unfold intText
  split
  · rw [String.toList_append]
    exact List.mem_append_right _ inText
  · exact inText

theorem exists_mem_positional (number : DecimalDigits) :
    ∃ char ∈ number.positional.toList, isNameChar char = false := by
  refine ⟨'.', ?_, rfl⟩
  unfold DecimalDigits.positional
  dsimp only
  split <;> simp

theorem exists_mem_scientific (point : Bool) (number : DecimalDigits) :
    ∃ char ∈ (number.scientific point).toList, isNameChar char = false := by
  have isSign (isNegative : Prop) [Decidable isNegative] :
      ∃ char ∈ (if isNegative then "-" else "+").toList, isNameChar char = false := by
    split
    · exact ⟨'-', by simp, rfl⟩
    · exact ⟨'+', by simp, rfl⟩
  obtain ⟨sign, member, isOther⟩ :=
    isSign (number.exponent + ((decimalDigits number.digits).length : Int) - 1 < 0)
  refine ⟨sign, ?_, isOther⟩
  unfold DecimalDigits.scientific
  simp only [String.toList_append, List.mem_append]
  exact Or.inl (Or.inr member)

theorem exists_mem_text (negative : Bool) (units : Nat) (inRange : units < Binary64.unitsLimit) :
    ∃ char ∈ (Binary64.finite negative units inRange).text.toList, isNameChar char = false := by
  unfold Binary64.text
  dsimp only
  split
  · exact ⟨'-', by simp, rfl⟩
  · split
    · exact ⟨'.', by simp, rfl⟩
    · split
      · exact exists_mem_positional _
      · exact exists_mem_scientific _ _

namespace Value

theorem sizeOf_lt_list {items : List Value} {item : Value} (member : item ∈ items) :
    sizeOf item < sizeOf (Value.list items) := by
  have smaller := List.sizeOf_lt_of_mem member
  simp only [list.sizeOf_spec]
  omega

theorem sizeOf_lt_map {entries : Entries} {key value : Value} (member : (key, value) ∈ entries) :
    sizeOf value < sizeOf (Value.map entries) := by
  have smaller := List.sizeOf_lt_of_mem member
  simp only [Prod.mk.sizeOf_spec, map.sizeOf_spec] at *
  omega

theorem exists_forall₂ {α β : Type} {relation : α → β → Prop} {items : List α}
    (each : ∀ item ∈ items, ∃ other, relation item other) :
    ∃ others, List.Forall₂ relation items others := by
  induction items with
  | nil => exact ⟨[], .nil⟩
  | cons item rest ih =>
      obtain ⟨⟨other, isRelated⟩, eachRest⟩ := List.forall_mem_cons.mp each
      obtain ⟨others, areRelated⟩ := ih eachRest
      exact ⟨other :: others, .cons isRelated areRelated⟩

def WrittenField (entry : Value × Value) (field : String × Value) : Prop :=
  documentKey? entry.1 = some field.1 ∧ document? entry.2 = some field.2

theorem documents?_eq_some_iff (items written : List Value) :
    documents? items = some written ↔
      List.Forall₂ (fun item content => document? item = some content) items written := by
  induction items generalizing written with
  | nil => simp [documents?, eq_comm]
  | cons item rest ih =>
      simp only [documents?, Option.bind_eq_bind, Option.bind_eq_some_iff, ih,
        List.forall₂_cons_left_iff, Option.some.injEq]
      constructor
      · rintro ⟨first, isFirst, others, areOthers, rfl⟩
        exact ⟨first, others, isFirst, areOthers, rfl⟩
      · rintro ⟨first, others, isFirst, areOthers, rfl⟩
        exact ⟨first, isFirst, others, areOthers, rfl⟩

theorem documentEntries?_eq_some_iff (entries pairs : Entries) :
    documentEntries? entries = some pairs ↔
      ∃ fields : Fields, List.Forall₂ WrittenField entries fields ∧ pairs = fields.toEntries := by
  induction entries generalizing pairs with
  | nil => simp [documentEntries?, Fields.toEntries, eq_comm]
  | cons entry rest ih =>
      obtain ⟨key, value⟩ := entry
      simp only [documentEntries?, Option.bind_eq_bind, Option.bind_eq_some_iff, ih,
        List.forall₂_cons_left_iff, Option.some.injEq]
      constructor
      · rintro ⟨name, isName, content, isContent, _, ⟨others, areOthers, rfl⟩, rfl⟩
        exact ⟨(name, content) :: others, ⟨(name, content), others, ⟨isName, isContent⟩, areOthers,
          rfl⟩, rfl⟩
      · rintro ⟨_, ⟨⟨name, content⟩, others, ⟨isName, isContent⟩, areOthers, rfl⟩, rfl⟩
        exact ⟨name, isName, content, isContent, _, ⟨others, areOthers, rfl⟩, rfl⟩

theorem document?_map_eq_some_iff (entries : Entries) (written : Value) :
    document? (.map entries) = some written ↔
      ∃ fields : Fields, List.Forall₂ WrittenField entries fields ∧
        written = (Fields.ofList fields).toValue := by
  rw [document?]
  simp only [Option.map_eq_some_iff, documentEntries?_eq_some_iff]
  constructor
  · rintro ⟨_, ⟨fields, areFields, rfl⟩, rfl⟩
    exact ⟨fields, areFields, congrArg Value.map (Fields.ofList_toEntries fields)⟩
  · rintro ⟨fields, areFields, rfl⟩
    exact ⟨_, ⟨fields, areFields, rfl⟩, congrArg Value.map (Fields.ofList_toEntries fields)⟩

theorem document?_list_eq_some_iff (items : List Value) (written : Value) :
    document? (.list items) = some written ↔
      ∃ contents, List.Forall₂ (fun item content => document? item = some content) items contents ∧
        written = .list contents := by
  rw [document?]
  simp only [Option.map_eq_some_iff, documents?_eq_some_iff, eq_comm (b := written)]

/-- The value is one that was read back from a document. -/
def IsDocument (value : Value) : Prop := value.document? = some value

theorem isDocument_toValue {fields : Fields} (distinct : fields.Distinct)
    (areDocuments : ∀ field ∈ fields, field.2.IsDocument) : fields.toValue.IsDocument := by
  rw [IsDocument, Fields.toValue_eq, document?_map_eq_some_iff]
  refine ⟨fields, ?_, by rw [Fields.ofList_of_distinct distinct, Fields.toValue_eq]⟩
  rw [Fields.toEntries, List.forall₂_map_left_iff, List.forall₂_same]
  exact fun field member => ⟨rfl, areDocuments field member⟩

mutual

theorem isDocument_of_document? (value written : Value) (isWritten : value.document? = some written) :
    written.IsDocument := by
  cases value with
  | null | bool _ | float _ | text _ => exact Option.some.inj isWritten ▸ rfl
  | int whole =>
      simp only [document?, Option.ite_none_right_eq_some] at isWritten
      obtain ⟨isWritable, same⟩ := isWritten
      simp only [← Option.some.inj same, IsDocument, document?, isWritable, if_true]
  | list items | tuple items =>
      obtain ⟨contents, areContents, rfl⟩ := Option.map_eq_some_iff.mp isWritten
      rw [IsDocument, document?, areDocuments_of_documents? items contents areContents,
        Option.map_some]
  | map entries =>
      obtain ⟨fields, areFields, rfl⟩ := (document?_map_eq_some_iff _ _).mp isWritten
      apply isDocument_toValue (Fields.distinct_ofList fields)
      apply Fields.forall_ofList Value.IsDocument
      exact fieldsAreDocuments_of_writtenFields entries fields areFields
  | _ => simp [document?] at isWritten

theorem areDocuments_of_documents? (items written : List Value)
    (areWritten : documents? items = some written) : documents? written = some written := by
  cases items with
  | nil => exact Option.some.inj areWritten ▸ rfl
  | cons item rest =>
      simp only [documents?, Option.bind_eq_bind, Option.bind_eq_some_iff, Option.some.injEq]
        at areWritten
      obtain ⟨first, isFirst, others, areOthers, rfl⟩ := areWritten
      rw [documents?, isDocument_of_document? item first isFirst,
        areDocuments_of_documents? rest others areOthers]
      rfl

theorem fieldsAreDocuments_of_writtenFields (entries : Entries) (fields : Fields)
    (areWritten : List.Forall₂ WrittenField entries fields) :
    ∀ field ∈ fields, field.2.IsDocument := by
  cases entries with
  | nil => cases areWritten; simp
  | cons entry rest =>
      obtain ⟨key, value⟩ := entry
      cases areWritten with
      | cons isFirst areOthers =>
          intro field member
          rcases List.mem_cons.mp member with rfl | later
          · exact isDocument_of_document? value _ isFirst.2
          · exact fieldsAreDocuments_of_writtenFields rest _ areOthers field later

end

def isPlainName (name : String) : Bool :=
  name.toList.all isNameChar && !(["true", "false", "null"].contains name)

theorem ne_of_isPlainName {name text : String} (isPlain : isPlainName name = true)
    (hasOther : ∃ char ∈ text.toList, isNameChar char = false) : text ≠ name := by
  rintro rfl
  obtain ⟨char, member, isOther⟩ := hasOther
  have allSmall := (Bool.and_eq_true_iff.mp isPlain).1
  exact Bool.noConfusion (isOther.symm.trans (List.all_eq_true.mp allSmall char member))

theorem documentKey?_eq_some_iff (key : Value) {name : String} (isPlain : isPlainName name = true) :
    documentKey? key = some name ↔ key = .text name := by
  have notWord : ∀ word ∈ ["true", "false", "null"], word ≠ name := by
    rintro word member rfl
    have isNoWord := (Bool.and_eq_true_iff.mp isPlain).2
    rw [Bool.not_eq_true', List.contains_eq_mem, decide_eq_false_iff_not] at isNoWord
    exact isNoWord member
  cases key with
  | text text => simp [documentKey?]
  | null => simpa [documentKey?] using notWord "null" (by simp)
  | bool value => cases value <;> simpa [documentKey?] using notWord _ (by simp)
  | int value =>
      have differs := ne_of_isPlainName isPlain (exists_mem_intText value)
      simp only [documentKey?, Option.ite_none_right_eq_some, Option.some.injEq, differs,
        and_false, reduceCtorEq]
  | float value =>
      cases value with
      | nan => simpa [documentKey?] using ne_of_isPlainName isPlain ⟨'N', by simp, rfl⟩
      | infinite negative =>
          cases negative <;>
            simpa [documentKey?] using ne_of_isPlainName isPlain ⟨'I', by simp, rfl⟩
      | finite negative units inRange =>
          simpa [documentKey?] using
            ne_of_isPlainName isPlain (exists_mem_text negative units inRange)
  | _ => simp [documentKey?]

theorem field?_of_writtenFields {entries : Entries} {fields : Fields}
    (areWritten : List.Forall₂ WrittenField entries fields) {name : String}
    (isPlain : isPlainName name = true) :
    Option.Rel (fun value content => document? value = some content)
      (Entries.field? entries name) (Entries.field? fields.toEntries name) := by
  induction areWritten with
  | nil => exact .none
  | @cons entry field rest others isFirst _ ih =>
      rw [Entries.field?_cons, Fields.toEntries, List.map_cons, Entries.field?_cons_text]
      have sameName : entry.1.equals (.text name) = true ↔ field.1 = name := by
        rw [equals_text_iff, ← documentKey?_eq_some_iff entry.1 isPlain, isFirst.1,
          Option.some.injEq]
      by_cases isName : field.1 = name
      · rw [if_pos (sameName.mpr isName), if_pos isName]
        exact .some isFirst.2
      · rw [if_neg (mt sameName.mp isName), if_neg isName]
        exact ih

theorem isDocument_map_iff (entries : Entries) :
    (Value.map entries).IsDocument ↔
      ∃ fields : Fields, fields.Distinct ∧ entries = fields.toEntries ∧
        ∀ field ∈ fields, field.2.IsDocument := by
  constructor
  · intro isDocument
    obtain ⟨fields, areWritten, same⟩ := (document?_map_eq_some_iff _ _).mp isDocument
    refine ⟨Fields.ofList fields, Fields.distinct_ofList fields, Value.map.inj same, ?_⟩
    exact Fields.forall_ofList Value.IsDocument
      (fieldsAreDocuments_of_writtenFields entries fields areWritten)
  · rintro ⟨fields, distinct, rfl, areDocuments⟩
    exact isDocument_toValue distinct areDocuments

theorem isDocument_list_iff (items : List Value) :
    (Value.list items).IsDocument ↔ ∀ item ∈ items, item.IsDocument := by
  rw [IsDocument, document?_list_eq_some_iff]
  constructor
  · rintro ⟨contents, areWritten, same⟩
    obtain rfl := Value.list.inj same
    exact fun item member => List.forall₂_same.mp areWritten item member
  · intro areDocuments
    exact ⟨items, List.forall₂_same.mpr areDocuments, rfl⟩

theorem null_equals_iff (value : Value) : Value.null.equals value = true ↔ value = .null := by
  cases value <;> simp [equals, equalScalars, numeric?]

theorem list_equals_iff (items : List Value) (value : Value) :
    (Value.list items).equals value = true ↔
      ∃ others, value = .list others ∧
        List.Forall₂ (fun item other => item.equals other = true) items others := by
  have itemwise (items others : List Value) : equalItems items others = true ↔
      List.Forall₂ (fun item other => item.equals other = true) items others := by
    induction items generalizing others with
    | nil => cases others <;> simp [equalItems]
    | cons item rest ih => cases others <;> simp [equalItems, ih]
  cases value <;> simp [equals, itemwise]

theorem includedEntries_iff (entries others : Entries) :
    includedEntries entries others = true ↔
      ∀ entry ∈ entries, ∃ other ∈ others,
        entry.1.equals other.1 = true ∧ entry.2.equals other.2 = true := by
  induction entries with
  | nil => simp [includedEntries]
  | cons entry rest ih =>
      rw [List.forall_mem_cons, ← ih, includedEntries, Bool.and_eq_true, List.any_eq_true]
      simp only [Bool.and_eq_true]

theorem field?_of_map_equals {fields : Fields} (distinct : fields.Distinct) {entries : Entries}
    (same : fields.toValue.equals (.map entries) = true) :
    (∀ entry ∈ entries, ∃ name, entry.1 = .text name) ∧ (Entries.names entries).Nodup ∧
      ∀ name, Option.Rel (fun content value => content.equals value = true)
        (Entries.field? fields.toEntries name) (Entries.field? entries name) := by
  rw [Fields.toValue_eq, equals, Bool.and_eq_true, beq_iff_eq, includedEntries_iff] at same
  obtain ⟨sameLength, included⟩ := same
  have found {name : String} {content : Value} (member : (.text name, content) ∈ fields.toEntries) :
      ∃ value, (.text name, value) ∈ entries ∧ content.equals value = true := by
    obtain ⟨⟨key, value⟩, isThere, sameKey, sameValue⟩ := included _ member
    obtain rfl := (text_equals_iff name key).mp sameKey
    exact ⟨value, isThere, sameValue⟩
  have named : Entries.names fields.toEntries ⊆ Entries.names entries := by
    intro name member
    obtain ⟨content, isField⟩ := (Entries.mem_names_iff _ _).mp member
    obtain ⟨value, isThere, _⟩ := found isField
    exact (Entries.mem_names_iff _ _).mpr ⟨value, isThere⟩
  -- There are as many entries as fields, so no entry is left for another name or another key.
  have once : (Entries.names fields.toEntries).Nodup := by
    rw [Fields.names_toEntries]
    exact distinct
  have enough : (Entries.names fields.toEntries).length = entries.length := by
    rw [Fields.names_toEntries, List.length_map, ← sameLength, Fields.toEntries, List.length_map]
  have atMost : (Entries.names entries).length ≤ entries.length := List.length_filterMap_le _ _
  have perm : (Entries.names fields.toEntries).Perm (Entries.names entries) :=
    (List.subperm_of_subset once named).perm_of_length_le (by omega)
  refine ⟨?_, perm.nodup_iff.mp once, ?_⟩
  · have all : (Entries.names entries).length = entries.length := perm.length_eq.symm.trans enough
    intro entry member
    obtain ⟨name, isName⟩ := Option.isSome_iff_exists.mp
      (List.filterMap_length_eq_length.mp all entry member)
    exact ⟨name, (text?_eq_some_iff _ _).mp isName⟩
  · intro name
    cases isField : Entries.field? fields.toEntries name with
    | some content =>
        obtain ⟨value, isThere, sameValue⟩ := found (Entries.mem_of_field? isField)
        rw [Entries.field?_of_mem (perm.nodup_iff.mp once) isThere]
        exact .some sameValue
    | none =>
        have isAbsent := (Entries.field?_eq_none_iff _ _).mp isField
        rw [(Entries.field?_eq_none_iff _ _).mpr fun member => isAbsent (perm.mem_iff.mpr member)]
        exact .none

end Value

end ConversionTracking
