import ConversionTracking.Proofs.Store.Column

/-!
Values without decimals. Such a value can be written as a document as soon as it equals one: decimals
are the only values that equal a document without having one.
-/

namespace ConversionTracking

namespace Value

inductive HasDecimal : Value → Prop where
  | decimal (number : Decimal) : HasDecimal (.decimal number)
  | inList {items : List Value} {item : Value} (member : item ∈ items) (has : item.HasDecimal) :
      HasDecimal (.list items)
  | inTuple {items : List Value} {item : Value} (member : item ∈ items) (has : item.HasDecimal) :
      HasDecimal (.tuple items)
  | inSet {items : List Value} {item : Value} (member : item ∈ items) (has : item.HasDecimal) :
      HasDecimal (.set items)
  | inKey {entries : List (Value × Value)} {entry : Value × Value} (member : entry ∈ entries)
      (has : entry.1.HasDecimal) : HasDecimal (.map entries)
  | inValue {entries : List (Value × Value)} {entry : Value × Value} (member : entry ∈ entries)
      (has : entry.2.HasDecimal) : HasDecimal (.map entries)

theorem not_hasDecimal_null : ¬HasDecimal .null := by
  intro has
  cases has

theorem not_hasDecimal_text (text : String) : ¬HasDecimal (.text text) := by
  intro has
  cases has

theorem not_hasDecimal_list_iff (items : List Value) :
    ¬HasDecimal (.list items) ↔ ∀ item ∈ items, ¬item.HasDecimal :=
  ⟨fun noDecimal _ member has => noDecimal (.inList member has),
    fun noDecimals => fun | .inList member has => noDecimals _ member has⟩

theorem not_hasDecimal_tuple_iff (items : List Value) :
    ¬HasDecimal (.tuple items) ↔ ∀ item ∈ items, ¬item.HasDecimal :=
  ⟨fun noDecimal _ member has => noDecimal (.inTuple member has),
    fun noDecimals => fun | .inTuple member has => noDecimals _ member has⟩

theorem not_hasDecimal_set_iff (items : List Value) :
    ¬HasDecimal (.set items) ↔ ∀ item ∈ items, ¬item.HasDecimal :=
  ⟨fun noDecimal _ member has => noDecimal (.inSet member has),
    fun noDecimals => fun | .inSet member has => noDecimals _ member has⟩

theorem not_hasDecimal_map_iff (entries : List (Value × Value)) :
    ¬HasDecimal (.map entries) ↔ ∀ entry ∈ entries, ¬entry.1.HasDecimal ∧ ¬entry.2.HasDecimal := by
  constructor
  · exact fun noDecimal _ member => ⟨fun has => noDecimal (.inKey member has),
      fun has => noDecimal (.inValue member has)⟩
  · intro noDecimals has
    cases has with
    | inKey member has => exact (noDecimals _ member).1 has
    | inValue member has => exact (noDecimals _ member).2 has

theorem pow_two_le_pow_ten {low high : Nat} (atMost : low ≤ high) :
    Nat.pow 2 low ≤ Nat.pow 10 high :=
  (Nat.pow_le_pow_left (by decide) low).trans (Nat.pow_le_pow_right (by decide) atMost)

theorem one_lt_pow_ten {digits : Nat} (notZero : digits ≠ 0) : 1 < Nat.pow 10 digits :=
  Nat.one_lt_pow notZero (by decide)

theorem isWritableWhole_of_rational? {number : Binary64} {whole : Int}
    (value : number.rational? = some (whole : ℚ)) : isWritableWhole whole = true := by
  have isWhole := Binary64.toInt?_eq_some_of_rational? value
  cases number with
  | finite negative units inRange =>
      rw [Binary64.toInt?_finite, Option.ite_none_right_eq_some, Option.some.injEq] at isWhole
      obtain ⟨_, rfl⟩ := isWhole
      have magnitude : (if negative then -((units / Binary64.unitsPerOne : Nat) : Int)
          else (units / Binary64.unitsPerOne : Nat)).natAbs = units / Binary64.unitsPerOne := by
        cases negative with
        | false => exact Int.natAbs_natCast _
        | true => exact (Int.natAbs_neg _).trans (Int.natAbs_natCast _)
      have enoughDigits : Binary64.unitsLimit ≤ Nat.pow 10 wholeDigitLimit := by
        have atMost : 2098 ≤ wholeDigitLimit := by decide
        unfold Binary64.unitsLimit
        generalize 2098 = exponent at atMost ⊢
        exact pow_two_le_pow_ten atMost
      rw [isWritableWhole, magnitude, decide_eq_true_eq]
      exact ((Nat.div_le_self _ _).trans_lt inRange).trans_le enoughDigits
  | infinite _ | nan => contradiction

theorem isWritableWhole_of_equals {content : Value} {whole : Int} (isDocument : content.IsDocument)
    (same : content.equals (.int whole) = true) : isWritableWhole whole = true := by
  cases content with
  | bool value =>
      have isSmall : (if value then (1 : Int) else 0) = whole := by
        simpa [equals, equalScalars, numeric?, Numeric.equals] using same
      have atMostOne : whole.natAbs ≤ 1 := by
        rw [← isSmall]
        cases value <;> decide
      rw [isWritableWhole, decide_eq_true_eq]
      exact atMostOne.trans_lt (@one_lt_pow_ten wholeDigitLimit (by decide))
  | int other =>
      have isSame : other = whole := by
        simpa [equals, equalScalars, numeric?, Numeric.equals] using same
      rw [IsDocument, document?, Option.ite_none_right_eq_some] at isDocument
      exact isSame ▸ isDocument.1
  | float number =>
      obtain ⟨_, isNumber, sameValue⟩ := numeric?_of_equals rfl same
      obtain rfl := Option.some.inj isNumber
      exact isWritableWhole_of_rational? sameValue
  | null | text _ | list _ | tuple _ | set _ | map _ | reference _ | bytes _ | date _ | instant _
    | object _ => simp [equals, equalScalars, numeric?] at same
  | decimal _ => simp [IsDocument, document?] at isDocument

theorem exists_of_forall₂ {α β : Type} {relation : α → β → Prop} {items : List α} {others : List β}
    (related : List.Forall₂ relation items others) :
    ∀ other ∈ others, ∃ item ∈ items, relation item other := by
  induction related with
  | nil => simp
  | @cons item other rest restOthers isRelated _ ih =>
      refine List.forall_mem_cons.mpr ⟨⟨item, List.mem_cons_self, isRelated⟩, fun later member => ?_⟩
      obtain ⟨earlier, isThere, isRelated⟩ := ih later member
      exact ⟨earlier, List.mem_cons_of_mem item isThere, isRelated⟩

theorem isDocument_of_equals (value : Value) {content : Value} (isDocument : content.IsDocument)
    (same : content.equals value = true) (noDecimal : ¬value.HasDecimal) : value.IsDocument := by
  cases value with
  | null | bool _ | float _ | text _ => rfl
  | int whole => rw [IsDocument, document?, isWritableWhole_of_equals isDocument same, if_pos rfl]
  | decimal number => exact absurd (.decimal number) noDecimal
  | list items =>
      cases content with
      | list contents =>
          obtain ⟨others, sameItems, areEqual⟩ := (list_equals_iff _ _).mp same
          obtain rfl := Value.list.inj sameItems
          have areDocuments := (isDocument_list_iff contents).mp isDocument
          refine (isDocument_list_iff items).mpr fun item member => ?_
          obtain ⟨content, isContent, sameContent⟩ := exists_of_forall₂ areEqual item member
          exact isDocument_of_equals item (areDocuments content isContent) sameContent
            fun has => noDecimal (.inList member has)
      | _ => simp [equals, equalScalars, numeric?] at same
  | map entries =>
      cases content with
      | map contents =>
          obtain ⟨fields, distinct, rfl, areDocuments⟩ := (isDocument_map_iff contents).mp isDocument
          obtain ⟨areNamed, once, found⟩ := field?_of_map_equals distinct same
          obtain ⟨others, rfl⟩ := Fields.exists_toEntries areNamed
          rw [Fields.names_toEntries] at once
          refine isDocument_toValue once ?_
          rintro ⟨name, value⟩ isOther
          have member : (.text name, value) ∈ others.toEntries := List.mem_map_of_mem isOther
          have related := found name
          rw [Entries.field?_of_mem (Fields.names_toEntries others ▸ once) member] at related
          cases isField : Entries.field? fields.toEntries name with
          | none =>
              rw [isField] at related
              cases related
          | some content =>
              rw [isField] at related
              cases related with
              | some sameContent =>
                  exact isDocument_of_equals value (areDocuments _ (Fields.mem_of_field? isField))
                    sameContent fun has => noDecimal (.inValue member has)
      | _ => simp [equals, equalScalars, numeric?] at same
  | tuple _ | set _ | bytes _ | date _ | instant _ | reference _ | object _ =>
      cases content <;> simp [equals, equalScalars, numeric?, IsDocument, document?] at same isDocument
termination_by sizeOf value
decreasing_by
  · subst_vars
    exact sizeOf_lt_list ‹_›
  · subst_vars
    exact sizeOf_lt_map ‹_›

theorem not_hasDecimal_of_document? {value written : Value}
    (isWritten : value.document? = some written) : ¬value.HasDecimal := by
  intro has
  induction has generalizing written with
  | decimal number => simp [document?] at isWritten
  | inList member _ ih | inTuple member _ ih =>
      obtain ⟨contents, areWritten, _⟩ := Option.map_eq_some_iff.mp isWritten
      rw [documents?_eq_some_iff] at areWritten
      obtain ⟨content, _, isContent⟩ := exists_of_forall₂ areWritten.flip _ member
      exact ih isContent
  | inSet _ _ _ => simp [document?] at isWritten
  | @inKey entries entry member has _ =>
      obtain ⟨fields, areWritten, _⟩ := (document?_map_eq_some_iff _ _).mp isWritten
      obtain ⟨field, _, isName, _⟩ := exists_of_forall₂ areWritten.flip _ member
      generalize entry.1 = key at has isName
      cases has <;> simp [documentKey?] at isName
  | @inValue entries entry member _ ih =>
      obtain ⟨fields, areWritten, _⟩ := (document?_map_eq_some_iff _ _).mp isWritten
      obtain ⟨field, _, _, isContent⟩ := exists_of_forall₂ areWritten.flip _ member
      exact ih isContent

end Value

end ConversionTracking
