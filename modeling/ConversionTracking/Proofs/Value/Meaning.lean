import ConversionTracking.Proofs.Value.Document
import ConversionTracking.Web.Respond

/-!
What values stand for when they are compared: numbers their exact values, lists what their items stand
for, and maps what they have under each name. Documents are equal to just the values that stand for
the same.
-/

namespace ConversionTracking

theorem forall₂_congr_left {α β : Type} {relation relation' : α → β → Prop} {items : List α}
    {others : List β}
    (same : ∀ item ∈ items, ∀ other, relation item other ↔ relation' item other) :
    List.Forall₂ relation items others ↔ List.Forall₂ relation' items others := by
  constructor
  · intro related
    exact ((List.forall₂_and_left _ _).mpr ⟨same, related⟩).imp fun _ other both =>
      (both.1 other).mp both.2
  · intro related
    exact ((List.forall₂_and_left _ _).mpr ⟨same, related⟩).imp fun _ other both =>
      (both.1 other).mpr both.2

theorem forall₂_common_iff {α β γ : Type} {left : α → γ → Prop} {right : β → γ → Prop} {items : List α}
    {others : List β} :
    List.Forall₂ (fun item other => ∃ common, left item common ∧ right other common) items others ↔
      ∃ commons, List.Forall₂ left items commons ∧ List.Forall₂ right others commons := by
  induction items generalizing others with
  | nil => cases others <;> simp
  | cons item rest ih =>
      constructor
      · rintro (_ | ⟨⟨common, isLeft, isRight⟩, areRest⟩)
        obtain ⟨commons, areLeft, areRight⟩ := ih.mp areRest
        exact ⟨common :: commons, .cons isLeft areLeft, .cons isRight areRight⟩
      · rintro ⟨_, _ | ⟨isLeft, areLeft⟩, areRight⟩
        cases areRight with
        | cons isRight areRight =>
            exact .cons ⟨_, isLeft, isRight⟩ (ih.mpr ⟨_, areLeft, areRight⟩)

theorem rel_common_iff {α β γ : Type} {left : α → γ → Prop} {right : β → γ → Prop}
    {value : Option α} {other : Option β} :
    Option.Rel (fun value other => ∃ common, left value common ∧ right other common) value other ↔
      ∃ common, Option.Rel left value common ∧ Option.Rel right other common := by
  constructor
  · rintro (⟨common, isLeft, isRight⟩ | _)
    · exact ⟨some common, .some isLeft, .some isRight⟩
    · exact ⟨none, .none, .none⟩
  · rintro ⟨common, isLeft, isRight⟩
    cases isLeft with
    | some isLeft =>
        cases isRight with
        | some isRight => exact .some ⟨_, isLeft, isRight⟩
    | none =>
        cases isRight with
        | none => exact .none

/-- A number on the extended line, without sign for zero. -/
inductive ExactNumber where
  | finite (value : ℚ)
  | infinite (negative : Bool)

namespace Binary64

def value? : Binary64 → Option ExactNumber
  | .infinite negative => some (.infinite negative)
  | number => number.rational?.map .finite

theorem value?_finite (negative : Bool) (units : Nat) (inRange : units < unitsLimit) :
    (finite negative units inRange).value? =
      some (.finite (((if negative then -(units : Int) else units : Int) : ℚ) / unitsPerOne)) := rfl

theorem value?_infinite (negative : Bool) : (infinite negative).value? = some (.infinite negative) :=
  rfl

theorem value?_nan : nan.value? = none := rfl

theorem compareInt?_eq_iff (number : Binary64) (whole : Int) :
    number.compareInt? whole = some .eq ↔ number.value? = some (.finite whole) := by
  cases number with
  | finite negative units inRange =>
      rw [value?_finite, Option.some.injEq, ExactNumber.finite.injEq,
        div_eq_iff cast_unitsPerOne_ne_zero]
      change some (compare _ _) = _ ↔ _
      rw [Option.some.injEq, compare_eq_iff_eq]
      norm_cast
  | infinite negative => cases negative <;> simp [compareInt?, value?_infinite]
  | nan => simp [compareInt?, value?_nan]

theorem equals_iff (left right : Binary64) :
    left.equals right = true ↔ ∃ value, left.value? = some value ∧ right.value? = some value := by
  cases left with
  | finite leftSign leftUnits leftRange =>
      cases right with
      | finite rightSign rightUnits rightRange =>
          simp only [value?_finite, Option.some.injEq, exists_eq_left', ExactNumber.finite.injEq]
          rw [div_left_inj' cast_unitsPerOne_ne_zero, Int.cast_inj]
          change (some (compare (if leftSign then -(leftUnits : Int) else leftUnits)
            (if rightSign then -(rightUnits : Int) else rightUnits)) == some .eq) = true ↔ _
          rw [beq_iff_eq, Option.some.injEq, compare_eq_iff_eq]
          exact eq_comm
      | infinite negative =>
          have unequal : (finite leftSign leftUnits leftRange).equals (infinite negative) = false := by
            cases negative <;> rfl
          simp only [unequal, value?_finite, value?_infinite, Option.some.injEq, exists_eq_left',
            reduceCtorEq]
      | nan => simp [equals, compare?, value?_nan]
  | infinite leftSign =>
      cases right with
      | finite negative units inRange =>
          have unequal : (infinite leftSign).equals (finite negative units inRange) = false := by
            cases leftSign <;> rfl
          simp only [unequal, value?_finite, value?_infinite, Option.some.injEq, exists_eq_left',
            reduceCtorEq]
      | infinite rightSign =>
          cases leftSign <;> cases rightSign <;> simp [equals, compare?, value?_infinite]
      | nan => simp [equals, compare?, value?_nan]
  | nan => simp [equals, compare?, value?_nan]

end Binary64

namespace Decimal

def value? : Decimal → Option ExactNumber
  | .infinite negative => some (.infinite negative)
  | number => number.rational?.map .finite

theorem value?_eq_finite_iff (number : Decimal) (value : ℚ) :
    number.value? = some (.finite value) ↔ number.rational? = some value := by
  cases number <;> simp [value?, rational?, fraction?]

theorem equalsInt_iff (number : Decimal) (whole : Int) :
    number.equalsInt whole = true ↔ number.value? = some (.finite whole) := by
  rw [value?_eq_finite_iff, rational?_eq_some_iff, equalsInt]
  cases number.fraction? with
  | none => simp
  | some fraction =>
      obtain ⟨num, den⟩ := fraction
      simp only [Option.some.injEq, Prod.mk.injEq, beq_iff_eq]
      constructor
      · exact fun same => ⟨num, den, ⟨rfl, rfl⟩, by exact_mod_cast same⟩
      · rintro ⟨_, _, ⟨rfl, rfl⟩, same⟩
        exact_mod_cast same

theorem equalsBinary64_iff (number : Decimal) (value : Binary64) :
    number.equalsBinary64 value = true ↔
      ∃ exact, value.value? = some exact ∧ number.value? = some exact := by
  cases number with
  | finite negative coefficient exponent =>
      obtain ⟨num, den, isFraction⟩ :
          ∃ num den, (finite negative coefficient exponent).fraction? = some (num, den) :=
        ⟨_, _, rfl⟩
      have notZero : (den : ℚ) ≠ 0 := Nat.cast_ne_zero.mpr (den_pos_of_fraction? isFraction).ne'
      have exact : (finite negative coefficient exponent).value? = some (.finite (num / den)) := by
        rw [value?_eq_finite_iff, rational?, isFraction]
        rfl
      cases value with
      | finite sign units inRange =>
          rw [exact, Binary64.value?_finite, equalsBinary64, isFraction, Binary64.toUnits?_finite]
          · simp only [beq_iff_eq, Option.some.injEq, exists_eq_left', ExactNumber.finite.injEq]
            rw [div_eq_div_iff notZero Binary64.cast_unitsPerOne_ne_zero]
            norm_cast
          · simp
      | infinite _ => simp [equalsBinary64, Binary64.toUnits?, exact, Binary64.value?_infinite]
      | nan => simp [equalsBinary64, Binary64.toUnits?, Binary64.value?_nan]
  | infinite left =>
      cases value with
      | infinite right => simp [equalsBinary64, value?, Binary64.value?_infinite]
      | finite sign units inRange =>
          have unequal : (infinite left).equalsBinary64 (.finite sign units inRange) = false := rfl
          simp only [unequal, Binary64.value?_finite, value?, Option.some.injEq, exists_eq_left',
            reduceCtorEq]
      | nan => simp [equalsBinary64, fraction?, Binary64.value?_nan]
  | nan _ _ _ => cases value <;> simp [equalsBinary64, fraction?, value?, rational?]

end Decimal

namespace Value

namespace Numeric

def value? : Numeric → Option ExactNumber
  | .whole value => some (.finite value)
  | .binary value => value.value?
  | .decimal value => value.value?

theorem equals_iff {left right : Numeric} (notDecimal : ∀ value, left ≠ .decimal value) :
    left.equals right = true ↔ ∃ value, left.value? = some value ∧ right.value? = some value := by
  cases left with
  | whole left =>
      rw [value?]
      simp only [Option.some.injEq, exists_eq_left']
      cases right with
      | whole right =>
          rw [equals, beq_iff_eq, value?, Option.some.injEq, ExactNumber.finite.injEq, Int.cast_inj]
          exact eq_comm
      | binary right => exact beq_iff_eq.trans (right.compareInt?_eq_iff left)
      | decimal right => exact right.equalsInt_iff left
  | binary left =>
      cases right with
      | whole right =>
          simp only [value?, Option.some.injEq, exists_eq_right']
          exact beq_iff_eq.trans (left.compareInt?_eq_iff right)
      | binary right => exact left.equals_iff right
      | decimal right => exact right.equalsBinary64_iff left
  | decimal left => exact absurd rfl (notDecimal left)

end Numeric

inductive Meaning where
  | null
  | number (value : ExactNumber)
  | text (value : String)
  | list (items : List Meaning)
  | map (fields : String → Option Meaning)

mutual

def meaning? : Value → Option Meaning
  | .null => some .null
  | .bool value => some (.number (.finite (if value then 1 else 0)))
  | .int value => some (.number (.finite value))
  | .float value => value.value?.map .number
  | .decimal value => value.value?.map .number
  | .text value => some (.text value)
  | .list items => (meanings? items).map .list
  | .map entries => (fieldMeanings? entries).map .map
  | _ => none

def meanings? : List Value → Option (List Meaning)
  | [] => some []
  | item :: rest => do
      let meaning ← meaning? item
      let others ← meanings? rest
      some (meaning :: others)

def fieldMeanings? : List (Value × Value) → Option (String → Option Meaning)
  | [] => some fun _ => none
  | (.text name, value) :: rest => do
      let meaning ← meaning? value
      let others ← fieldMeanings? rest
      if (others name).isSome then none
      else some fun other => if other = name then some meaning else others other
  | _ :: _ => none

end

theorem meaning?_eq_null_iff (value : Value) : value.meaning? = some .null ↔ value = .null := by
  cases value <;> simp [meaning?]

theorem meaning?_eq_text_iff (value : Value) (text : String) :
    value.meaning? = some (.text text) ↔ value = .text text := by
  cases value <;> simp [meaning?]

theorem meaning?_eq_number_iff (value : Value) (exact : ExactNumber) :
    value.meaning? = some (.number exact) ↔
      ∃ number, value.numeric? = some number ∧ number.value? = some exact := by
  cases value <;> simp [meaning?, numeric?, Numeric.value?]

theorem meanings?_eq_some_iff (items : List Value) (meanings : List Meaning) :
    meanings? items = some meanings ↔
      List.Forall₂ (fun item meaning => item.meaning? = some meaning) items meanings := by
  induction items generalizing meanings with
  | nil => simp [meanings?, eq_comm]
  | cons item rest ih =>
      simp only [meanings?, Option.bind_eq_bind, Option.bind_eq_some_iff, ih,
        List.forall₂_cons_left_iff, Option.some.injEq]
      constructor
      · rintro ⟨first, isFirst, others, areOthers, rfl⟩
        exact ⟨first, others, isFirst, areOthers, rfl⟩
      · rintro ⟨first, others, isFirst, areOthers, rfl⟩
        exact ⟨first, isFirst, others, areOthers, rfl⟩

theorem meaning?_eq_list_iff (value : Value) (meanings : List Meaning) :
    value.meaning? = some (.list meanings) ↔
      ∃ items, value = .list items ∧
        List.Forall₂ (fun item meaning => item.meaning? = some meaning) items meanings := by
  cases value <;> simp [meaning?, meanings?_eq_some_iff]

structure HaveMeanings (entries : Entries) (fields : String → Option Meaning) : Prop where
  areNamed : ∀ entry ∈ entries, ∃ name, entry.1 = .text name
  once : (Entries.names entries).Nodup
  found : ∀ name, Option.Rel (fun value meaning => value.meaning? = some meaning)
    (Entries.field? entries name) (fields name)

theorem haveMeanings_nil_iff (fields : String → Option Meaning) :
    HaveMeanings [] fields ↔ fields = fun _ => none := by
  constructor
  · intro meanings
    funext name
    have related := meanings.found name
    rw [Entries.field?_nil] at related
    cases isField : fields name with
    | none => rfl
    | some meaning =>
        rw [isField] at related
        cases related
  · rintro rfl
    exact ⟨List.forall_mem_nil _, List.nodup_nil, fun _ => .none⟩

theorem haveMeanings_cons_iff (name : String) (value : Value) (rest : Entries)
    (fields : String → Option Meaning) :
    HaveMeanings ((.text name, value) :: rest) fields ↔
      ∃ meaning others, value.meaning? = some meaning ∧ HaveMeanings rest others ∧
        others name = none ∧
        fields = fun other => if other = name then some meaning else others other := by
  have names : Entries.names ((.text name, value) :: rest) = name :: Entries.names rest := rfl
  constructor
  · rintro ⟨areNamed, once, found⟩
    obtain ⟨isNew, restOnce⟩ := List.nodup_cons.mp (names ▸ once)
    have first := found name
    rw [Entries.field?_cons_text, if_pos rfl] at first
    cases isField : fields name with
    | none =>
        rw [isField] at first
        cases first
    | some meaning =>
        rw [isField] at first
        cases first with
        | some isMeaning =>
            refine ⟨meaning, fun other => if other = name then none else fields other, isMeaning,
              ⟨(List.forall_mem_cons.mp areNamed).2, restOnce, fun other => ?_⟩, if_pos rfl, ?_⟩
            · split
              · rename_i same
                rw [same, (Entries.field?_eq_none_iff rest name).mpr isNew]
                exact .none
              · rename_i differ
                have related := found other
                rwa [Entries.field?_cons_text, if_neg (Ne.symm differ)] at related
            · funext other
              split
              · rename_i same
                rw [same, isField]
              · rename_i differ
                exact (if_neg differ).symm
  · rintro ⟨meaning, others, isMeaning, ⟨areNamed, once, found⟩, isNew, rfl⟩
    refine ⟨List.forall_mem_cons.mpr ⟨⟨name, rfl⟩, areNamed⟩, ?_, fun other => ?_⟩
    · rw [names, List.nodup_cons, ← Entries.field?_eq_none_iff]
      have related := found name
      rw [isNew] at related
      cases isField : Entries.field? rest name with
      | none => exact ⟨rfl, once⟩
      | some content =>
          rw [isField] at related
          cases related
    · rw [Entries.field?_cons_text]
      by_cases same : name = other
      · rw [if_pos same, if_pos same.symm]
        exact .some isMeaning
      · rw [if_neg same, if_neg (Ne.symm same)]
        exact found other

theorem fieldMeanings?_eq_some_iff (entries : Entries) (fields : String → Option Meaning) :
    fieldMeanings? entries = some fields ↔ HaveMeanings entries fields := by
  induction entries generalizing fields with
  | nil =>
      rw [haveMeanings_nil_iff, fieldMeanings?, Option.some.injEq]
      exact eq_comm
  | cons entry rest ih =>
      obtain ⟨key, value⟩ := entry
      cases key with
      | text name =>
          rw [haveMeanings_cons_iff]
          simp only [fieldMeanings?, Option.bind_eq_bind, Option.bind_eq_some_iff, ih,
            Option.ite_none_left_eq_some, Option.not_isSome_iff_eq_none, Option.some.injEq]
          constructor
          · rintro ⟨meaning, isMeaning, others, areOthers, isNew, rfl⟩
            exact ⟨meaning, others, isMeaning, areOthers, isNew, rfl⟩
          · rintro ⟨meaning, others, isMeaning, areOthers, isNew, rfl⟩
            exact ⟨meaning, isMeaning, others, areOthers, isNew, rfl⟩
      | _ =>
          refine iff_of_false (by simp [fieldMeanings?]) fun meanings => ?_
          obtain ⟨_, isText⟩ := (List.forall_mem_cons.mp meanings.areNamed).1
          contradiction

theorem meaning?_eq_map_iff (value : Value) (fields : String → Option Meaning) :
    value.meaning? = some (.map fields) ↔
      ∃ entries, value = .map entries ∧ HaveMeanings entries fields := by
  cases value <;> simp [meaning?, fieldMeanings?_eq_some_iff]

theorem meaning?_of_numeric {value : Value} {number : Numeric}
    (isNumber : value.numeric? = some number) : value.meaning? = number.value?.map .number := by
  cases value with
  | bool value =>
      obtain rfl := Option.some.inj isNumber
      cases value <;> simp [meaning?, Numeric.value?]
  | int _ | float _ | decimal _ =>
      obtain rfl := Option.some.inj isNumber
      rfl
  | _ => contradiction

theorem map_equals_iff {fields : Fields} (distinct : fields.Distinct) (entries : Entries) :
    fields.toValue.equals (.map entries) = true ↔
      (∀ entry ∈ entries, ∃ name, entry.1 = .text name) ∧ (Entries.names entries).Nodup ∧
        ∀ name, Option.Rel (fun content value => content.equals value = true)
          (Entries.field? fields.toEntries name) (Entries.field? entries name) := by
  refine ⟨field?_of_map_equals distinct, ?_⟩
  rintro ⟨areNamed, once, found⟩
  have fieldsOnce : (Entries.names fields.toEntries).Nodup := by
    rw [Fields.names_toEntries]
    exact distinct
  rw [Fields.toValue_eq, equals, Bool.and_eq_true, beq_iff_eq, includedEntries_iff]
  constructor
  · have sameNames : (Entries.names fields.toEntries).Perm (Entries.names entries) := by
      rw [List.perm_ext_iff_of_nodup fieldsOnce once]
      intro name
      rw [← not_iff_not, ← Entries.field?_eq_none_iff, ← Entries.field?_eq_none_iff]
      have related := found name
      cases isField : Entries.field? fields.toEntries name <;>
        cases isThere : Entries.field? entries name <;> simp_all
    have all : (Entries.names entries).length = entries.length := by
      refine List.filterMap_length_eq_length.mpr fun entry member => ?_
      obtain ⟨name, isName⟩ := areNamed entry member
      rw [isName]
      rfl
    rw [← all, ← sameNames.length_eq, Fields.names_toEntries, List.length_map, Fields.toEntries,
      List.length_map]
  · intro field isField
    obtain ⟨⟨name, content⟩, member, rfl⟩ := List.mem_map.mp isField
    have related := found name
    rw [Entries.field?_of_mem fieldsOnce isField] at related
    cases isThere : Entries.field? entries name with
    | none =>
        rw [isThere] at related
        cases related
    | some value =>
        rw [isThere] at related
        cases related with
        | some same =>
            exact ⟨_, Entries.mem_of_field? isThere, (text_equals_iff _ _).mpr rfl, same⟩

theorem numeric_equals_iff {content : Value} (isDocument : content.IsDocument) {number : Numeric}
    (isNumber : content.numeric? = some number) (value : Value) :
    content.equals value = true ↔
      ∃ meaning, content.meaning? = some meaning ∧ value.meaning? = some meaning := by
  have notDecimal : ∀ decimal, number ≠ .decimal decimal := by
    rintro decimal rfl
    cases content with
    | decimal _ => exact absurd isDocument (Option.some_ne_none _).symm
    | bool _ | int _ | float _ => exact absurd (Option.some.inj isNumber) Numeric.noConfusion
    | _ => contradiction
  rw [equals_of_numeric_iff isNumber, meaning?_of_numeric isNumber]
  simp only [Option.map_eq_some_iff, Numeric.equals_iff notDecimal]
  constructor
  · rintro ⟨other, isOther, exact, isExact, otherExact⟩
    exact ⟨_, ⟨exact, isExact, rfl⟩,
      (meaning?_eq_number_iff _ _).mpr ⟨other, isOther, otherExact⟩⟩
  · rintro ⟨_, ⟨exact, isExact, rfl⟩, isMeaning⟩
    obtain ⟨other, isOther, otherExact⟩ := (meaning?_eq_number_iff _ _).mp isMeaning
    exact ⟨other, isOther, exact, isExact, otherExact⟩

theorem haveMeanings_toEntries_iff {fields : Fields} (distinct : fields.Distinct)
    (meanings : String → Option Meaning) :
    HaveMeanings fields.toEntries meanings ↔
      ∀ name, Option.Rel (fun value meaning => value.meaning? = some meaning)
        (Entries.field? fields.toEntries name) (meanings name) := by
  refine ⟨HaveMeanings.found, fun found => ⟨fun entry member => ?_, ?_, found⟩⟩
  · obtain ⟨⟨name, value⟩, _, rfl⟩ := List.mem_map.mp member
    exact ⟨name, rfl⟩
  · rw [Fields.names_toEntries]
    exact distinct

/-- A document is equal to just the values that stand for the same. -/
theorem equals_iff_meaning {content : Value} (isDocument : content.IsDocument) (value : Value) :
    content.equals value = true ↔
      ∃ meaning, content.meaning? = some meaning ∧ value.meaning? = some meaning := by
  cases content with
  | null =>
      rw [null_equals_iff, ← meaning?_eq_null_iff, meaning?]
      simp only [Option.some.injEq, exists_eq_left']
  | text text =>
      rw [text_equals_iff, ← meaning?_eq_text_iff, meaning?]
      simp only [Option.some.injEq, exists_eq_left']
  | bool _ | int _ | float _ => exact numeric_equals_iff isDocument rfl value
  | list contents =>
      have areDocuments := (isDocument_list_iff contents).mp isDocument
      have itemwise (others : List Value) :
          List.Forall₂ (fun content other => content.equals other = true) contents others ↔
            ∃ meanings, List.Forall₂ (fun content meaning => content.meaning? = some meaning) contents
              meanings ∧ List.Forall₂ (fun other meaning => other.meaning? = some meaning) others
              meanings := by
        rw [← forall₂_common_iff]
        exact forall₂_congr_left fun content member => equals_iff_meaning (areDocuments content member)
      rw [list_equals_iff]
      constructor
      · rintro ⟨others, rfl, areEqual⟩
        obtain ⟨meanings, areContents, areOthers⟩ := (itemwise others).mp areEqual
        exact ⟨_, (meaning?_eq_list_iff _ _).mpr ⟨contents, rfl, areContents⟩,
          (meaning?_eq_list_iff _ _).mpr ⟨others, rfl, areOthers⟩⟩
      · rintro ⟨meaning, isMeaning, valueMeaning⟩
        obtain ⟨meanings, _, rfl⟩ := Option.map_eq_some_iff.mp isMeaning
        obtain ⟨_, same, areContents⟩ := (meaning?_eq_list_iff _ _).mp isMeaning
        obtain rfl := Value.list.inj same
        obtain ⟨others, rfl, areOthers⟩ := (meaning?_eq_list_iff _ _).mp valueMeaning
        exact ⟨others, rfl, (itemwise others).mpr ⟨meanings, areContents, areOthers⟩⟩
  | map contents =>
      obtain ⟨fields, distinct, rfl, areDocuments⟩ := (isDocument_map_iff contents).mp isDocument
      have namewise (entries : Entries) :
          (∀ name, Option.Rel (fun content value => content.equals value = true)
              (Entries.field? fields.toEntries name) (Entries.field? entries name)) ↔
            ∃ meanings : String → Option Meaning, ∀ name,
              Option.Rel (fun content meaning => content.meaning? = some meaning)
                (Entries.field? fields.toEntries name) (meanings name) ∧
              Option.Rel (fun value meaning => value.meaning? = some meaning)
                (Entries.field? entries name) (meanings name) := by
        have each (name : String) :
            Option.Rel (fun content value => content.equals value = true)
                (Entries.field? fields.toEntries name) (Entries.field? entries name) ↔
              ∃ meaning, Option.Rel (fun content meaning => content.meaning? = some meaning)
                  (Entries.field? fields.toEntries name) meaning ∧
                Option.Rel (fun value meaning => value.meaning? = some meaning)
                  (Entries.field? entries name) meaning := by
          rw [← rel_common_iff]
          constructor
          · intro related
            refine Option.Rel.imp related fun content value isField _ same => ?_
            have member := Fields.mem_of_field? isField
            exact (equals_iff_meaning (areDocuments _ member) value).mp same
          · intro related
            refine Option.Rel.imp related fun content value isField _ same => ?_
            have member := Fields.mem_of_field? isField
            exact (equals_iff_meaning (areDocuments _ member) value).mpr same
        constructor
        · exact fun related => Classical.axiomOfChoice fun name => (each name).mp (related name)
        · rintro ⟨meanings, areMeanings⟩ name
          exact (each name).mpr ⟨meanings name, areMeanings name⟩
      constructor
      · intro same
        cases value with
        | map entries =>
            obtain ⟨areNamed, once, found⟩ := (map_equals_iff distinct entries).mp same
            obtain ⟨meanings, areMeanings⟩ := (namewise entries).mp found
            exact ⟨.map meanings, (meaning?_eq_map_iff _ _).mpr ⟨_, rfl,
              (haveMeanings_toEntries_iff distinct _).mpr fun name => (areMeanings name).1⟩,
              (meaning?_eq_map_iff _ _).mpr ⟨entries, rfl, areNamed, once,
                fun name => (areMeanings name).2⟩⟩
        | _ => simp [equals] at same
      · rintro ⟨meaning, isMeaning, valueMeaning⟩
        obtain ⟨meanings, _, rfl⟩ := Option.map_eq_some_iff.mp isMeaning
        obtain ⟨_, same, ofFields⟩ := (meaning?_eq_map_iff _ _).mp isMeaning
        obtain rfl := Value.map.inj same
        obtain ⟨entries, rfl, ofEntries⟩ := (meaning?_eq_map_iff _ _).mp valueMeaning
        exact (map_equals_iff distinct entries).mpr ⟨ofEntries.areNamed, ofEntries.once,
          (namewise entries).mpr ⟨meanings, fun name =>
            ⟨ofFields.found name, ofEntries.found name⟩⟩⟩
  | _ => simp [IsDocument, document?] at isDocument
termination_by sizeOf content
decreasing_by
  · subst_vars
    exact sizeOf_lt_list ‹_›
  all_goals
    subst_vars
    exact sizeOf_lt_map (Entries.mem_of_field? ‹_›)

section

variable {content other : Value} (isDocument : content.IsDocument) (otherDocument : other.IsDocument)

include isDocument otherDocument

theorem equals_symm (same : content.equals other = true) : other.equals content = true := by
  obtain ⟨meaning, isMeaning, otherMeaning⟩ := (equals_iff_meaning isDocument other).mp same
  exact (equals_iff_meaning otherDocument content).mpr ⟨meaning, otherMeaning, isMeaning⟩

theorem equals_of_common {value : Value} (same : content.equals value = true)
    (otherSame : other.equals value = true) : content.equals other = true := by
  obtain ⟨meaning, isMeaning, valueMeaning⟩ := (equals_iff_meaning isDocument value).mp same
  obtain ⟨_, otherMeaning, sameMeaning⟩ := (equals_iff_meaning otherDocument value).mp otherSame
  obtain rfl := Option.some.inj (valueMeaning.symm.trans sameMeaning)
  exact (equals_iff_meaning isDocument other).mpr ⟨meaning, isMeaning, otherMeaning⟩

theorem equals_iff_of_equals (same : content.equals other = true) (value : Value) :
    content.equals value = true ↔ other.equals value = true := by
  obtain ⟨meaning, isMeaning, otherMeaning⟩ := (equals_iff_meaning isDocument other).mp same
  rw [equals_iff_meaning isDocument, equals_iff_meaning otherDocument, isMeaning, otherMeaning]

end

theorem areFinite_iff (items : List Value) :
    areFinite items = true ↔ ∀ item ∈ items, item.isFinite = true := by
  induction items with
  | nil => simp [areFinite]
  | cons item rest ih => simp [areFinite, ih]

theorem haveFiniteValues_iff (entries : Entries) :
    haveFiniteValues entries = true ↔ ∀ entry ∈ entries, entry.2.isFinite = true := by
  induction entries with
  | nil => simp [haveFiniteValues]
  | cons entry rest ih => simp [haveFiniteValues, ih]

/-- A document of finite numbers stands for something. -/
theorem exists_meaning {content : Value} (isDocument : content.IsDocument)
    (finite : content.isFinite = true) : ∃ meaning, content.meaning? = some meaning := by
  cases content with
  | null => exact ⟨.null, rfl⟩
  | text text => exact ⟨.text text, rfl⟩
  | bool _ | int _ => exact ⟨_, rfl⟩
  | float number =>
      cases number with
      | finite _ _ _ => exact ⟨_, rfl⟩
      | infinite _ | nan => simp [isFinite] at finite
  | list items =>
      rw [isFinite, areFinite_iff] at finite
      have areDocuments := (isDocument_list_iff items).mp isDocument
      obtain ⟨meanings, areMeanings⟩ := exists_forall₂ fun item member =>
        exists_meaning (areDocuments item member) (finite item member)
      exact ⟨.list meanings, (meaning?_eq_list_iff _ _).mpr ⟨items, rfl, areMeanings⟩⟩
  | map entries =>
      rw [isFinite, haveFiniteValues_iff] at finite
      obtain ⟨fields, distinct, rfl, areDocuments⟩ := (isDocument_map_iff entries).mp isDocument
      refine ⟨.map fun name => (Entries.field? fields.toEntries name).bind meaning?,
        (meaning?_eq_map_iff _ _).mpr ⟨_, rfl, (haveMeanings_toEntries_iff distinct _).mpr ?_⟩⟩
      intro name
      cases isField : Entries.field? fields.toEntries name with
      | none => exact .none
      | some value =>
          obtain ⟨meaning, isMeaning⟩ := exists_meaning
            (areDocuments _ (Fields.mem_of_field? isField)) (finite _ (Entries.mem_of_field? isField))
          rw [Option.bind_some, isMeaning]
          exact .some isMeaning
  | _ => simp [IsDocument, document?] at isDocument
termination_by sizeOf content
decreasing_by
  · subst_vars
    exact sizeOf_lt_list ‹_›
  · subst_vars
    exact sizeOf_lt_map (Entries.mem_of_field? ‹_›)

theorem equals_self {content : Value} (isDocument : content.IsDocument)
    (finite : content.isFinite = true) : content.equals content = true := by
  obtain ⟨meaning, isMeaning⟩ := exists_meaning isDocument finite
  exact (equals_iff_meaning isDocument content).mpr ⟨meaning, isMeaning, isMeaning⟩

end Value

end ConversionTracking
