import ConversionTracking.Proofs.Condition.Operators
import ConversionTracking.Proofs.Value.Decimals

/-!
Whole numbers in two forms. Up to 2⁵³ a whole number and the number of double precision that it is have
the same readings, so that no condition tells one from the other, on either of its sides.
-/

namespace ConversionTracking

namespace Binary64

theorem exists_ofInt?_of_small {whole : Int} (isSmall : whole.natAbs ≤ 2 ^ 53) :
    ∃ number, ofInt? whole = some number ∧ number.IsWhole whole := by
  have isInRange : IsInRange whole := by
    have limit : 2 ^ 53 < wholeLimit := by decide +kernel
    exact Nat.lt_of_le_of_lt isSmall limit
  have isShort : IsShort whole := ⟨whole.natAbs, 0, isSmall, (Nat.mul_one _).symm⟩
  obtain ⟨number, isNumber, isWhole⟩ := exists_ofInt? isInRange
  rw [rounded_of_isShort isShort] at isWhole
  exact ⟨number, isNumber, isWhole⟩

section

variable {number : Binary64} {whole : Int} (isWhole : number.IsWhole whole)

include isWhole

theorem rational?_of_isWhole : number.rational? = some (whole : ℚ) := by
  rw [rational?_eq_some_iff]
  exact ⟨_, isWhole, by push_cast; rfl⟩

theorem value?_of_isWhole : number.value? = some (.finite whole) := by
  cases number with
  | finite negative units inRange =>
      have isValue := rational?_of_isWhole isWhole
      rw [value?, isValue]
      · rfl
      · nofun
  | infinite _ | nan => cases isWhole

end

end Binary64

namespace Value

/-- The second value is the first, or the number of double precision that a whole number up to 2⁵³ is. -/
inductive Recasts : Value → Value → Prop where
  | same (value : Value) : Recasts value value
  | whole {whole : Int} {number : Binary64} (isSmall : whole.natAbs ≤ 2 ^ 53)
      (isNumber : Binary64.ofInt? whole = some number) : Recasts (.int whole) (.float number)

structure ReadAlike (value other : Value) : Prop where
  isNull : value.isNull = other.isNull
  toNumber : value.toNumber = other.toNumber
  toText? : value.toText? = other.toText?
  writtenText : value.writtenText = other.writtenText
  equalsAny : ∀ target, value.equals target = other.equals target
  anyEquals : ∀ observed : Value, observed.equals value = observed.equals other
  signalsAny : ∀ target, value.signals target = other.signals target
  anySignals : ∀ observed : Value, observed.signals value = observed.signals other

section

variable {whole : Int} {number : Binary64} (isWhole : number.IsWhole whole)

include isWhole

theorem Numeric.value?_recast : (Numeric.whole whole).value? = (Numeric.binary number).value? :=
  (Binary64.value?_of_isWhole isWhole).symm

theorem Numeric.recast_equals (right : Numeric) :
    (Numeric.whole whole).equals right = (Numeric.binary number).equals right := by
  have wholeIsNot : ∀ value, Numeric.whole whole ≠ .decimal value := fun _ => Numeric.noConfusion
  have binaryIsNot : ∀ value, Numeric.binary number ≠ .decimal value :=
    fun _ => Numeric.noConfusion
  rw [Bool.eq_iff_iff, Numeric.equals_iff wholeIsNot, Numeric.equals_iff binaryIsNot,
    Numeric.value?_recast isWhole]

theorem Numeric.equals_recast (left : Numeric) :
    left.equals (.whole whole) = left.equals (.binary number) := by
  rw [Bool.eq_iff_iff]
  by_cases isDecimal : ∃ value, left = .decimal value
  · obtain ⟨value, rfl⟩ := isDecimal
    rw [Numeric.equals, Numeric.equals, Decimal.equalsInt_iff, Decimal.equalsBinary64_iff,
      Binary64.value?_of_isWhole isWhole]
    simp
  · have isNot : ∀ value, left ≠ .decimal value := not_exists.mp isDecimal
    rw [Numeric.equals_iff isNot, Numeric.equals_iff isNot, Numeric.value?_recast isWhole]

theorem recast_equals (target : Value) :
    (Value.int whole).equals target = (Value.float number).equals target := by
  have sameNumber := Numeric.recast_equals isWhole
  rw [Bool.eq_iff_iff, equals_of_numeric_iff rfl, equals_of_numeric_iff rfl]
  simp only [sameNumber]

theorem equals_recast (observed : Value) :
    observed.equals (.int whole) = observed.equals (.float number) := by
  cases isNumber : observed.numeric? with
  | some left =>
      rw [Bool.eq_iff_iff, equals_of_numeric_iff isNumber, equals_of_numeric_iff isNumber]
      simp only [numeric?, Option.some.injEq, exists_eq_left', Numeric.equals_recast isWhole]
  | none =>
      cases observed with
      | bool _ | int _ | float _ | decimal _ => cases isNumber
      | _ => simp [equals, equalScalars, numeric?]

end

theorem recast_signals (whole : Int) (number : Binary64) (target : Value) :
    (Value.int whole).signals target = (Value.float number).signals target := by
  cases target <;> simp [signals, numeric?, Numeric.isSignaling]

theorem signals_recast (whole : Int) (number : Binary64) (observed : Value) :
    observed.signals (.int whole) = observed.signals (.float number) := by
  cases observed <;> simp [signals, numeric?, Numeric.isSignaling]

theorem Recasts.readAlike {value other : Value} (recasts : value.Recasts other) :
    ReadAlike value other := by
  cases recasts with
  | same => exact ⟨rfl, rfl, rfl, rfl, fun _ => rfl, fun _ => rfl, fun _ => rfl, fun _ => rfl⟩
  | @whole whole number isSmall isNumber =>
      obtain ⟨_, isSame, isWhole⟩ := Binary64.exists_ofInt?_of_small isSmall
      obtain rfl := Option.some.inj (isNumber.symm.trans isSame)
      have isValue := Binary64.rational?_of_isWhole isWhole
      have sameText : (Value.int whole).toText? = (Value.float number).toText? := by
        rw [toText?, toText?, Binary64.toInt?_eq_some_of_rational? isValue]
      exact {
        isNull := rfl
        toNumber := by rw [toNumber, toNumber, isNumber]; rfl
        toText? := sameText
        writtenText := by
          rw [writtenText, if_pos (isWritableWhole_of_rational? isValue)]
          exact congrArg _ sameText
        equalsAny := recast_equals isWhole
        anyEquals := equals_recast isWhole
        signalsAny := recast_signals whole number
        anySignals := signals_recast whole number }

section

variable {observed other : Value} (sameObserved : ReadAlike observed other)

include sameObserved

theorem ReadAlike.looseEquals {target recast : Value} (sameTarget : ReadAlike target recast) :
    observed.looseEquals target = other.looseEquals recast := by
  rw [Value.looseEquals, Value.looseEquals, sameObserved.isNull, sameTarget.isNull,
    sameObserved.toNumber, sameTarget.toNumber, sameObserved.toText?, sameTarget.toText?,
    sameObserved.equalsAny, sameTarget.anyEquals, sameObserved.signalsAny, sameTarget.anySignals]

theorem ReadAlike.onNumbers (compare : Binary64 → Binary64 → Bool) {target recast : Value}
    (sameTarget : ReadAlike target recast) :
    Operator.onNumbers compare observed target = Operator.onNumbers compare other recast := by
  rw [Operator.onNumbers, Operator.onNumbers, sameObserved.toNumber, sameTarget.toNumber]

theorem ReadAlike.onTexts (compare : List Char → List Char → Bool) {target recast : Value}
    (sameTarget : ReadAlike target recast) :
    Operator.onTexts compare observed target = Operator.onTexts compare other recast := by
  rw [Operator.onTexts, Operator.onTexts, sameObserved.isNull, sameObserved.writtenText,
    sameTarget.writtenText]

theorem ReadAlike.matchesPattern {target recast : Value} (recasts : target.Recasts recast) :
    Operator.matchesPattern observed target = Operator.matchesPattern other recast := by
  cases recasts with
  | whole _ _ => rfl
  | same target =>
      cases target with
      | text pattern =>
          rw [Operator.matchesPattern, Operator.matchesPattern, sameObserved.writtenText]
      | _ => rfl

theorem ReadAlike.anyEqual {items others : List Value} (recasts : List.Forall₂ Recasts items others) :
    Operator.anyEqual observed items = Operator.anyEqual other others := by
  induction recasts with
  | nil => rfl
  | cons first _ ih =>
      rw [Operator.anyEqual, Operator.anyEqual, sameObserved.looseEquals first.readAlike, ih]

end

inductive RecastsTarget (name : Value) : Value → Value → Prop where
  | value {target recast : Value} (recasts : target.Recasts recast) : RecastsTarget name target recast
  | items {target recast : Value} {items others : List Value}
      (isMembership : name = .text "in" ∨ name = .text "not_in") (collects : target.Collects items)
      (othersCollected : recast.Collects others) (recasts : List.Forall₂ Recasts items others) :
      RecastsTarget name target recast

/-- The value of a condition is recast, or the targets of its operators are. -/
inductive RecastsCondition : Value → Value → Prop where
  | value {target recast : Value} (recasts : target.Recasts recast) : RecastsCondition target recast
  | operators {entries others : List (Value × Value)}
      (recasts : List.Forall₂
        (fun entry other => entry.1 = other.1 ∧ RecastsTarget entry.1 entry.2 other.2) entries others) :
      RecastsCondition (.map entries) (.map others)

theorem Recasts.candidates? {target recast : Value} (recasts : target.Recasts recast) :
    Operator.candidates? target = Operator.candidates? recast := by
  cases recasts <;> rfl

section

variable {observed other : Value} (sameObserved : ReadAlike observed other)

include sameObserved

theorem ReadAlike.holds_of_recasts (operator : Operator) {target recast : Value}
    (recasts : target.Recasts recast) :
    operator.holds observed target = operator.holds other recast := by
  have sameTarget := recasts.readAlike
  cases operator with
  | eq | neq => rw [Operator.holds, Operator.holds, sameObserved.looseEquals sameTarget]
  | gt | lt | gte | lte => rw [Operator.holds, Operator.holds, sameObserved.onNumbers _ sameTarget]
  | contains | startsWith | endsWith =>
      rw [Operator.holds, Operator.holds, sameObserved.onTexts _ sameTarget]
  | isIn | notIn =>
      have sameItems : ∀ items, Operator.anyEqual observed items = Operator.anyEqual other items :=
        fun items => sameObserved.anyEqual (List.forall₂_same.mpr fun item _ => .same item)
      rw [Operator.holds, Operator.holds, recasts.candidates?]
      simp only [sameItems, sameObserved.isNull]
  | regex => exact sameObserved.matchesPattern recasts

theorem ReadAlike.holds_of_items {operator : Operator}
    (isMembership : operator = .isIn ∨ operator = .notIn) {target recast : Value}
    {items others : List Value} (collects : target.Collects items)
    (othersCollected : recast.Collects others) (recasts : List.Forall₂ Recasts items others) :
    operator.holds observed target = operator.holds other recast := by
  have areItems := (Operator.candidates?_eq_some_iff _ _).mpr collects
  have areOthers := (Operator.candidates?_eq_some_iff _ _).mpr othersCollected
  rcases isMembership with rfl | rfl <;>
    rw [Operator.holds, Operator.holds, areItems, areOthers] <;>
    simp only [sameObserved.anyEqual recasts, sameObserved.isNull]

theorem ReadAlike.operatorHolds {name target recast : Value}
    (recasts : RecastsTarget name target recast) :
    operatorHolds observed name target = operatorHolds other name recast := by
  cases recasts with
  | value recasts =>
      rw [ConversionTracking.operatorHolds, ConversionTracking.operatorHolds]
      simp only [sameObserved.holds_of_recasts _ recasts]
  | items isMembership collects othersCollected recasts =>
      have known : ∃ operator : Operator, name = .text operator.name ∧
          (operator = .isIn ∨ operator = .notIn) := by
        rcases isMembership with rfl | rfl
        · exact ⟨.isIn, rfl, .inl rfl⟩
        · exact ⟨.notIn, rfl, .inr rfl⟩
      obtain ⟨operator, rfl, isEither⟩ := known
      rw [operatorHolds_known, operatorHolds_known,
        sameObserved.holds_of_items isEither collects othersCollected recasts]

theorem ReadAlike.operatorsHold {entries others : List (Value × Value)}
    (recasts : List.Forall₂
      (fun entry other => entry.1 = other.1 ∧ RecastsTarget entry.1 entry.2 other.2) entries others) :
    operatorsHold observed entries = operatorsHold other others := by
  induction recasts with
  | nil => rfl
  | @cons entry recast _ _ first _ ih =>
      obtain ⟨name, target⟩ := entry
      obtain ⟨recastName, recastTarget⟩ := recast
      obtain ⟨rfl, recasts⟩ := first
      rw [ConversionTracking.operatorsHold, ConversionTracking.operatorsHold,
        sameObserved.operatorHolds recasts, ih]

theorem ReadAlike.meets_of_operators {entries others : List (Value × Value)}
    (recasts : List.Forall₂
      (fun entry other => entry.1 = other.1 ∧ RecastsTarget entry.1 entry.2 other.2) entries others) :
    meets observed (.map entries) = meets other (.map others) := by
  have sameAnswer := sameObserved.operatorsHold recasts
  cases recasts with
  | nil => rfl
  | cons _ _ => exact sameAnswer

theorem ReadAlike.meets_of_recasts {condition recast : Value} (recasts : condition.Recasts recast) :
    meets observed condition = meets other recast := by
  by_cases isMap : ∃ entries, condition = .map entries
  · obtain ⟨entries, rfl⟩ := isMap
    cases recasts with
    | same =>
        exact sameObserved.meets_of_operators
          (List.forall₂_same.mpr fun entry _ => ⟨rfl, .value (.same entry.2)⟩)
  · have notMap : ∀ entries, condition ≠ .map entries := not_exists.mp isMap
    have recastNotMap : ∀ entries, recast ≠ .map entries := by
      rintro entries rfl
      cases recasts with
      | same => exact notMap entries rfl
    rw [meets_scalar notMap, meets_scalar recastNotMap, sameObserved.looseEquals recasts.readAlike]

end

/-- Each whole number up to 2⁵³ has a form of double precision, which meets the same conditions, and
conditions ask the same with either form as their value, as the target of an operator or as an item that
a collection holds. -/
theorem recasts_undetected :
    (∀ whole : Int, whole.natAbs ≤ 2 ^ 53 →
      ∃ number, Binary64.ofInt? whole = some number ∧ number.IsWhole whole ∧
        ∀ condition, meets (.int whole) condition = meets (.float number) condition) ∧
      ∀ observed other condition recast : Value, observed.Recasts other →
        RecastsCondition condition recast → meets observed condition = meets other recast := by
  have undetected : ∀ observed other condition recast : Value, observed.Recasts other →
      RecastsCondition condition recast → meets observed condition = meets other recast := by
    intro observed other condition recast recasts recastsCondition
    cases recastsCondition with
    | value recastsValue => exact recasts.readAlike.meets_of_recasts recastsValue
    | operators recastsTargets => exact recasts.readAlike.meets_of_operators recastsTargets
  refine ⟨fun whole isSmall => ?_, undetected⟩
  obtain ⟨number, isNumber, isWhole⟩ := Binary64.exists_ofInt?_of_small isSmall
  exact ⟨number, isNumber, isWhole, fun condition =>
    undetected _ _ _ _ (.whole isSmall isNumber) (.value (.same condition))⟩

theorem two_hundred_meets_recast_targets :
    ∃ number, Binary64.ofInt? 200 = some number ∧
      (meets (.int 200) (.map [(.text "eq", .int 200), (.text "in", .list [.int 200])])).result =
        .ok true ∧
      (meets (.int 200)
        (.map [(.text "eq", .float number), (.text "in", .list [.float number])])).result =
        .ok true := by
  obtain ⟨forms, undetected⟩ := recasts_undetected
  obtain ⟨number, isNumber, _⟩ := forms 200 (by decide)
  have recasts : (Value.int 200).Recasts (.float number) := .whole (by decide) isNumber
  have recastsTargets :
      RecastsCondition (.map [(.text "eq", .int 200), (.text "in", .list [.int 200])])
        (.map [(.text "eq", .float number), (.text "in", .list [.float number])]) :=
    .operators (.cons ⟨rfl, .value recasts⟩
      (.cons ⟨rfl, .items (.inl rfl) (.list _) (.list _) (.cons recasts .nil)⟩ .nil))
  have isMet : (meets (.int 200) (.map [(.text "eq", .int 200), (.text "in", .list [.int 200])])).result =
      .ok true := by
    decide +kernel
  refine ⟨number, isNumber, isMet, ?_⟩
  rw [← undetected _ _ _ _ (.same _) recastsTargets]
  exact isMet

end Value

end ConversionTracking
