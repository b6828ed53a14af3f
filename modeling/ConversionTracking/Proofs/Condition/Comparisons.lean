import ConversionTracking.Proofs.Condition.Evaluation
import ConversionTracking.Proofs.Number.Order

/-!
Conditions that compare whole numbers, given as numbers or in decimal text. They compare the nearest
numbers of double precision, so that different numbers beyond 53 significant bits may count as equal.
-/

namespace ConversionTracking

namespace Binary64

theorem isWhole_toBinary64 {value : Int} (isInRange : IsInRange value) :
    (Numeral.toBinary64 ⟨value < 0, value.natAbs, 0⟩).IsWhole (rounded value) := by
  have isRatio := ofDecimal_eq_ofRatio (value < 0) value.natAbs 0
  rw [Int.neg_zero, Int.toNat_zero, Nat.pow_zero, Nat.mul_one] at isRatio
  rw [Numeral.toBinary64, isRatio]
  exact isWhole_ofRatio isInRange

end Binary64

namespace Value

open Binary64 (IsInRange IsNearest IsShort rounded compare_rounded isNearest_rounded rounded_of_isShort)

inductive Denotes : Value → Int → Prop where
  | int (whole : Int) : Denotes (.int whole) whole
  | text (whole : Int) : Denotes (.text (intText whole)) whole

theorem Denotes.exists_number {value : Value} {whole : Int} (denotes : value.Denotes whole)
    (isInRange : IsInRange whole) :
    ∃ number, value.toNumber = .ok (some number) ∧ number.IsWhole (rounded whole) := by
  cases denotes with
  | int =>
      obtain ⟨number, isNumber, isWhole⟩ := Binary64.exists_ofInt? isInRange
      refine ⟨number, ?_, isWhole⟩
      rw [toNumber, isNumber]
      rfl
  | text =>
      refine ⟨_, ?_, Binary64.isWhole_toBinary64 isInRange⟩
      exact (Numeral.read_eq_ok_some_iff _ _).mpr
        ⟨_, [], (Numeral.writes_intText whole).standsIn, by simp, rfl⟩

/-- The conditions on the observed value that compare it with the target hold by this order of the two. -/
structure ComparesAs (observed target : Value) (order : Ordering) : Prop where
  plain : meets observed target = pure order.isEq
  eq : meets observed (.map [(.text "eq", target)]) = pure order.isEq
  gt : meets observed (.map [(.text "gt", target)]) = pure order.isGT
  gte : meets observed (.map [(.text "gte", target)]) = pure order.isGE
  lt : meets observed (.map [(.text "lt", target)]) = pure order.isLT
  lte : meets observed (.map [(.text "lte", target)]) = pure order.isLE

theorem comparesAs_of_compare? {observed target : Value} {left right : Binary64} {order : Ordering}
    (observedRead : observed.toNumber = .ok (some left))
    (targetRead : target.toNumber = .ok (some right))
    (isOrder : Binary64.compare? left right = some order)
    (isSwapped : Binary64.compare? right left = some order.swap) :
    ComparesAs observed target order := by
  have equality : Operator.numbers (observed.looseEquals target) = pure order.isEq := by
    rw [looseEquals_of_numbers observedRead targetRead, Binary64.equals_of_compare? isOrder]
    rfl
  have comparison (holds : Binary64 → Binary64 → Bool) :
      Operator.numbers (Operator.onNumbers holds observed target) = pure (holds left right) := by
    rw [Operator.onNumbers, observedRead, targetRead]
    rfl
  have notMap : ∀ entries, target ≠ .map entries := by
    rintro entries rfl
    cases targetRead
  have greater : right.less left = order.isGT := by
    rw [Binary64.less_of_compare? isSwapped, Ordering.isLT_swap]
  have greaterOrEqual : right.lessOrEqual left = order.isGE := by
    rw [Binary64.lessOrEqual_of_compare? isSwapped, Ordering.isLE_swap]
  constructor
  · rw [meets_scalar notMap]
    exact equality
  · exact meets_operator rfl equality
  · rw [← greater]
    exact meets_operator rfl (comparison _)
  · rw [← greaterOrEqual]
    exact meets_operator rfl (comparison _)
  · rw [← Binary64.less_of_compare? isOrder]
    exact meets_operator rfl (comparison _)
  · rw [← Binary64.lessOrEqual_of_compare? isOrder]
    exact meets_operator rfl (comparison _)

theorem comparesAs_of_isWhole {observed target : Value} {left right : Binary64}
    {leftWhole rightWhole : Int} (observedRead : observed.toNumber = .ok (some left))
    (targetRead : target.toNumber = .ok (some right)) (leftIs : left.IsWhole leftWhole)
    (rightIs : right.IsWhole rightWhole) :
    ComparesAs observed target (compare leftWhole rightWhole) := by
  refine comparesAs_of_compare? observedRead targetRead
    (Binary64.compare?_of_isWhole leftIs rightIs) ?_
  rw [Binary64.compare?_of_isWhole rightIs leftIs, Std.OrientedOrd.eq_swap]

/-- Conditions on whole numbers compare the nearest numbers of double precision. They are exact on equal
numbers and on numbers with different nearest ones, and so on all of at most 53 significant bits. -/
theorem comparesAs_nearest {observed target : Value} {left right : Int}
    (observedIs : observed.Denotes left) (targetIs : target.Denotes right)
    (leftInRange : IsInRange left) (rightInRange : IsInRange right) :
    (IsNearest left (rounded left) ∧ IsNearest right (rounded right) ∧
        ComparesAs observed target (compare (rounded left) (rounded right))) ∧
      (left = right ∨ rounded left ≠ rounded right →
        ComparesAs observed target (compare left right)) ∧
      (IsShort left → IsShort right → ComparesAs observed target (compare left right)) := by
  obtain ⟨leftNumber, observedRead, leftIs⟩ := observedIs.exists_number leftInRange
  obtain ⟨rightNumber, targetRead, rightIs⟩ := targetIs.exists_number rightInRange
  have nearest := comparesAs_of_isWhole observedRead targetRead leftIs rightIs
  refine ⟨⟨isNearest_rounded left, isNearest_rounded right, nearest⟩, fun apart => ?_,
    fun leftShort rightShort => ?_⟩
  · rwa [compare_rounded apart] at nearest
  · rwa [rounded_of_isShort leftShort, rounded_of_isShort rightShort] at nearest

theorem texts_of_neighbours_compare :
    let lower : Int := 9007199254740993
    let upper : Int := 9007199254740995
    let observed := Value.text (intText lower)
    let target := Value.int upper
    (observed.Denotes lower ∧ target.Denotes upper ∧ IsInRange lower ∧ IsInRange upper ∧
        rounded lower ≠ rounded upper) ∧
      (IsNearest lower (rounded lower) ∧ IsNearest upper (rounded upper) ∧
        ComparesAs observed target (compare (rounded lower) (rounded upper))) ∧
      (lower = upper ∨ rounded lower ≠ rounded upper →
        ComparesAs observed target (compare lower upper)) ∧
      (IsShort lower → IsShort upper → ComparesAs observed target (compare lower upper)) := by
  have lowerInRange : IsInRange 9007199254740993 := by decide +kernel
  have upperInRange : IsInRange 9007199254740995 := by decide +kernel
  have apart : rounded 9007199254740993 ≠ rounded 9007199254740995 := by decide +kernel
  exact ⟨⟨.text _, .int _, lowerInRange, upperInRange, apart⟩,
    comparesAs_nearest (.text _) (.int _) lowerInRange upperInRange⟩

/-- The first whole number of 54 bits counts as equal to the one before it. -/
theorem neighbours_count_as_equal :
    ¬∀ left right : Int, IsInRange left → IsInRange right →
      ((meets (.int left) (.int right)).result = .ok true ↔ left = right) := by
  intro exact
  have lowerInRange : IsInRange 9007199254740992 := by decide +kernel
  have upperInRange : IsInRange 9007199254740993 := by decide +kernel
  have met : (meets (.int 9007199254740992) (.int 9007199254740993)).result = .ok true := by
    decide +kernel
  exact absurd ((exact _ _ lowerInRange upperInRange).mp met) (by decide)

end Value

end ConversionTracking
