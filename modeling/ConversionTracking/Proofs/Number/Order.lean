import ConversionTracking.Proofs.Number.Nearest

/-!
The order of double-precision numbers, and operations that keep it or reverse it. Every number that is
no NaN has a place on the line, infinities at the limits of the range. Rounding keeps the order of
quotients, and so does whatever is computed from numbers by rounded steps that each keep it.
-/

namespace ConversionTracking

namespace Binary64

theorem exists_compare? {left right : Binary64} (leftIsNumber : left ≠ .nan)
    (rightIsNumber : right ≠ .nan) :
    ∃ order, compare? left right = some order ∧ compare? right left = some order.swap := by
  cases left with
  | nan => exact absurd rfl leftIsNumber
  | infinite leftSign =>
      cases right with
      | nan => exact absurd rfl rightIsNumber
      | infinite rightSign => cases leftSign <;> cases rightSign <;> exact ⟨_, rfl, rfl⟩
      | finite _ _ _ => cases leftSign <;> exact ⟨_, rfl, rfl⟩
  | finite leftSign leftUnits leftRange =>
      cases right with
      | nan => exact absurd rfl rightIsNumber
      | infinite rightSign => cases rightSign <;> exact ⟨_, rfl, rfl⟩
      | finite rightSign rightUnits rightRange =>
          refine ⟨_, rfl, ?_⟩
          rw [← Std.OrientedOrd.eq_swap]
          rfl

section

variable {left right : Binary64} {order : Ordering} (isOrder : compare? left right = some order)

include isOrder

theorem equals_of_compare? : left.equals right = order.isEq := by
  rw [equals, isOrder]
  cases order <;> rfl

theorem less_of_compare? : left.less right = order.isLT := by
  rw [less, isOrder]
  cases order <;> rfl

theorem lessOrEqual_of_compare? : left.lessOrEqual right = order.isLE := by
  rw [lessOrEqual, isOrder]
  cases order <;> rfl

end

theorem isNumber_of_lessOrEqual {left right : Binary64} (holds : left.lessOrEqual right = true) :
    left ≠ .nan ∧ right ≠ .nan := by
  constructor
  · rintro rfl
    cases holds
  · rintro rfl
    cases left <;> cases holds

theorem lessOrEqual_of_less {left right : Binary64} (isLess : left.less right = true) :
    left.lessOrEqual right = true := by
  rw [lessOrEqual, Bool.or_eq_true]
  exact .inl isLess

theorem less_asymm {left right : Binary64} (isLess : left.less right = true) :
    right.less left = false := by
  obtain ⟨leftIsNumber, rightIsNumber⟩ := isNumber_of_lessOrEqual (lessOrEqual_of_less isLess)
  obtain ⟨order, isOrder, isSwapped⟩ := exists_compare? leftIsNumber rightIsNumber
  rw [less_of_compare? isOrder] at isLess
  rw [less_of_compare? isSwapped]
  cases order <;> first | rfl | contradiction

def signed (negative : Bool) (units : Nat) : Int := if negative then -(units : Int) else units

theorem signed_not (negative : Bool) (units : Nat) :
    signed (!negative) units = -signed negative units := by
  cases negative <;> simp [signed]

def place? : Binary64 → Option Int
  | .finite negative units _ => some (signed negative units)
  | .infinite negative => some (signed negative unitsLimit)
  | .nan => none

theorem exists_place? {number : Binary64} (isNumber : number ≠ .nan) :
    ∃ place, number.place? = some place := by
  cases number with
  | finite negative units _ => exact ⟨_, rfl⟩
  | infinite negative => exact ⟨_, rfl⟩
  | nan => exact absurd rfl isNumber

theorem ne_nan_of_place? {number : Binary64} {place : Int} (isPlace : number.place? = some place) :
    number ≠ .nan := by
  rintro rfl
  contradiction

theorem isZero_iff_place? {number : Binary64} : number.isZero = true ↔ number.place? = some 0 := by
  have positive := unitsLimit_pos
  cases number with
  | nan => simp [isZero, place?]
  | infinite negative =>
      cases negative <;> simp [isZero, place?, signed] <;> omega
  | finite negative units inRange =>
      cases negative <;> simp [isZero, place?, signed]

theorem signed_natAbs (place : Int) : signed (place < 0) place.natAbs = place := by
  rw [signed]
  split
  · rename_i isNegative
    have below := of_decide_eq_true isNegative
    omega
  · rename_i notNegative
    have above := of_decide_eq_false (Bool.eq_false_iff.mpr notNegative)
    omega

def onMagnitude (change : Nat → Nat) (place : Int) : Int := signed (place < 0) (change place.natAbs)

theorem onMagnitude_signed {change : Nat → Nat} (zero : change 0 = 0) (negative : Bool)
    (units : Nat) : onMagnitude change (signed negative units) = signed negative (change units) := by
  cases negative with
  | false =>
      have notNegative : ¬(units : Int) < 0 := by omega
      simp only [onMagnitude, signed, notNegative, decide_false, Bool.false_eq_true, if_false,
        Int.natAbs_natCast]
  | true =>
      by_cases isZero : units = 0
      · subst isZero
        simp [onMagnitude, signed, zero]
      · have isNegative : -(units : Int) < 0 := by omega
        simp only [onMagnitude, signed, isNegative, decide_true, if_true, Int.natAbs_neg,
          Int.natAbs_natCast]

theorem onMagnitude_mono {change : Nat → Nat} (zero : change 0 = 0)
    (mono : ∀ low high, low ≤ high → change low ≤ change high) {left right : Int}
    (atMost : left ≤ right) : onMagnitude change left ≤ onMagnitude change right := by
  rw [← signed_natAbs left, ← signed_natAbs right, onMagnitude_signed zero, onMagnitude_signed zero]
  by_cases leftNegative : left < 0 <;> by_cases rightNegative : right < 0 <;>
    simp only [signed, leftNegative, rightNegative, decide_true, decide_false, if_true, if_false,
      Bool.false_eq_true]
  · have magnitudes := mono right.natAbs left.natAbs (by omega)
    omega
  · omega
  · omega
  · have magnitudes := mono left.natAbs right.natAbs (by omega)
    omega

theorem place_bounds {number : Binary64} {place : Int} (isPlace : number.place? = some place) :
    -(unitsLimit : Int) ≤ place ∧ place ≤ unitsLimit := by
  cases number with
  | finite negative units inRange =>
      obtain rfl := Option.some.inj isPlace
      rw [signed]
      split <;> omega
  | infinite negative =>
      obtain rfl := Option.some.inj isPlace
      rw [signed]
      split <;> omega
  | nan => contradiction

theorem signed_inside (negative : Bool) {units : Nat} (inRange : units < unitsLimit) :
    signed true unitsLimit < signed negative units ∧
      signed negative units < signed false unitsLimit := by
  cases negative <;> simp only [signed, if_true, if_false, Bool.false_eq_true] <;> omega

theorem compare?_of_place? {left right : Binary64} {leftPlace rightPlace : Int}
    (leftIs : left.place? = some leftPlace) (rightIs : right.place? = some rightPlace) :
    compare? left right = some (compare leftPlace rightPlace) := by
  cases left with
  | nan => contradiction
  | finite leftSign leftUnits leftInRange =>
      obtain rfl := Option.some.inj leftIs
      have inside := signed_inside leftSign leftInRange
      cases right with
      | nan => contradiction
      | finite rightSign rightUnits rightInRange =>
          obtain rfl := Option.some.inj rightIs
          rfl
      | infinite rightSign =>
          obtain rfl := Option.some.inj rightIs
          cases rightSign
          · rw [compare_lt_iff_lt.mpr inside.2]
            rfl
          · rw [compare_gt_iff_gt.mpr inside.1]
            rfl
  | infinite leftSign =>
      obtain rfl := Option.some.inj leftIs
      cases right with
      | nan => contradiction
      | finite rightSign rightUnits rightInRange =>
          obtain rfl := Option.some.inj rightIs
          have inside := signed_inside rightSign rightInRange
          cases leftSign
          · rw [compare_gt_iff_gt.mpr inside.2]
            rfl
          · rw [compare_lt_iff_lt.mpr inside.1]
            rfl
      | infinite rightSign =>
          obtain rfl := Option.some.inj rightIs
          have inside := signed_inside false unitsLimit_pos
          have apart := lt_trans inside.1 inside.2
          cases leftSign <;> cases rightSign
          · rw [compare_eq_iff_eq.mpr rfl]
            rfl
          · rw [compare_gt_iff_gt.mpr apart]
            rfl
          · rw [compare_lt_iff_lt.mpr apart]
            rfl
          · rw [compare_eq_iff_eq.mpr rfl]
            rfl

theorem lessOrEqual_iff_of_place? {left right : Binary64} {leftPlace rightPlace : Int}
    (leftIs : left.place? = some leftPlace) (rightIs : right.place? = some rightPlace) :
    left.lessOrEqual right = true ↔ leftPlace ≤ rightPlace := by
  rw [lessOrEqual_of_compare? (compare?_of_place? leftIs rightIs)]
  exact Std.isLE_compare

theorem less_iff_of_place? {left right : Binary64} {leftPlace rightPlace : Int}
    (leftIs : left.place? = some leftPlace) (rightIs : right.place? = some rightPlace) :
    left.less right = true ↔ leftPlace < rightPlace := by
  rw [less_of_compare? (compare?_of_place? leftIs rightIs), Ordering.isLT_iff_eq_lt,
    compare_lt_iff_lt]

theorem less_of_less_of_lessOrEqual {first second third : Binary64}
    (isLess : first.less second = true) (atMost : second.lessOrEqual third = true) :
    first.less third = true := by
  obtain ⟨firstIsNumber, secondIsNumber⟩ := isNumber_of_lessOrEqual (lessOrEqual_of_less isLess)
  obtain ⟨_, thirdIsNumber⟩ := isNumber_of_lessOrEqual atMost
  obtain ⟨firstPlace, firstIs⟩ := exists_place? firstIsNumber
  obtain ⟨secondPlace, secondIs⟩ := exists_place? secondIsNumber
  obtain ⟨thirdPlace, thirdIs⟩ := exists_place? thirdIsNumber
  rw [less_iff_of_place? firstIs secondIs] at isLess
  rw [lessOrEqual_iff_of_place? secondIs thirdIs] at atMost
  exact (less_iff_of_place? firstIs thirdIs).mpr (Int.lt_of_lt_of_le isLess atMost)

theorem lessOrEqual_self {number : Binary64} (isNumber : number ≠ .nan) :
    number.lessOrEqual number = true := by
  obtain ⟨place, isPlace⟩ := exists_place? isNumber
  exact (lessOrEqual_iff_of_place? isPlace isPlace).mpr (Int.le_refl place)

def nearestUnits (num den : Nat) : Nat := min (roundUnits num den) unitsLimit

theorem roundUnits_zero (den : Nat) : roundUnits 0 den = 0 := by
  rw [roundUnits, Nat.zero_div, roundHalfEven, Nat.zero_mod, Nat.zero_div]
  simp

theorem nearestUnits_zero (den : Nat) : nearestUnits 0 den = 0 := by
  rw [nearestUnits, roundUnits_zero, Nat.zero_min]

theorem nearestUnits_le {num den otherNum otherDen : Nat} (positive : 0 < den)
    (otherPositive : 0 < otherDen) (atMost : num * otherDen ≤ otherNum * den) :
    nearestUnits num den ≤ nearestUnits otherNum otherDen := by
  have rounds := roundUnits_mono (Nat.mul_pos positive otherPositive) atMost
  rw [roundUnits_mul_right num den otherPositive, Nat.mul_comm den,
    roundUnits_mul_right otherNum otherDen positive] at rounds
  rw [nearestUnits, nearestUnits]
  omega

theorem nearestUnits_mono {den : Nat} (positive : 0 < den) {low high : Nat} (atMost : low ≤ high) :
    nearestUnits low den ≤ nearestUnits high den :=
  nearestUnits_le positive positive (Nat.mul_le_mul_right den atMost)

theorem place?_ofUnits (negative : Bool) (num den : Nat) :
    (ofUnits negative num den).place? = some (signed negative (nearestUnits num den)) := by
  rw [ofUnits, nearestUnits]
  split
  · rename_i inRange
    rw [Nat.min_eq_left (Nat.le_of_lt inRange)]
    rfl
  · rename_i notInRange
    rw [Nat.min_eq_right (Nat.le_of_not_lt notInRange)]
    rfl

theorem ofRatio_lessOrEqual {num den otherNum otherDen : Nat} (positive : 0 < den)
    (otherPositive : 0 < otherDen) (atMost : num * otherDen ≤ otherNum * den) :
    (ofRatio false num den).lessOrEqual (ofRatio false otherNum otherDen) = true := by
  have scaled : num * unitsPerOne * otherDen ≤ otherNum * unitsPerOne * den := by
    rw [Nat.mul_right_comm, Nat.mul_right_comm otherNum]
    exact Nat.mul_le_mul_right _ atMost
  refine (lessOrEqual_iff_of_place? (place?_ofUnits _ _ _) (place?_ofUnits _ _ _)).mpr ?_
  exact Int.ofNat_le.mpr (nearestUnits_le positive otherPositive scaled)

/-- The operation moves the places of finite numbers without changing their order, and keeps the
infinities. -/
structure KeepsOrder (operation : Binary64 → Binary64) (move : Int → Int) : Prop where
  mono : ∀ {left right : Int}, left ≤ right → move left ≤ move right
  finite : ∀ negative units inRange,
    (operation (.finite negative units inRange)).place? = some (move (signed negative units))
  infinite : ∀ negative, operation (.infinite negative) = .infinite negative

namespace KeepsOrder

variable {operation : Binary64 → Binary64} {move : Int → Int} (keeps : KeepsOrder operation move)

include keeps

theorem exists_place? {number : Binary64} (isNumber : number ≠ .nan) :
    ∃ place, (operation number).place? = some place := by
  cases number with
  | finite negative units inRange => exact ⟨_, keeps.finite negative units inRange⟩
  | infinite negative => exact ⟨_, congrArg place? (keeps.infinite negative)⟩
  | nan => exact absurd rfl isNumber

theorem lessOrEqual {left right : Binary64} (atMost : left.lessOrEqual right = true) :
    (operation left).lessOrEqual (operation right) = true := by
  obtain ⟨leftIsNumber, rightIsNumber⟩ := isNumber_of_lessOrEqual atMost
  obtain ⟨leftPlace, leftIs⟩ := keeps.exists_place? leftIsNumber
  obtain ⟨rightPlace, rightIs⟩ := keeps.exists_place? rightIsNumber
  rw [lessOrEqual_iff_of_place? leftIs rightIs]
  cases left with
  | nan => exact absurd rfl leftIsNumber
  | finite leftSign leftUnits leftInRange =>
      cases right with
      | nan => exact absurd rfl rightIsNumber
      | finite rightSign rightUnits rightInRange =>
          obtain rfl := Option.some.inj ((keeps.finite _ _ _).symm.trans leftIs)
          obtain rfl := Option.some.inj ((keeps.finite _ _ _).symm.trans rightIs)
          exact keeps.mono ((lessOrEqual_iff_of_place? rfl rfl).mp atMost)
      | infinite rightSign =>
          cases rightSign
          · rw [keeps.infinite] at rightIs
            obtain rfl := Option.some.inj rightIs
            exact (place_bounds leftIs).2
          · contradiction
  | infinite leftSign =>
      cases leftSign
      · cases right with
        | nan => exact absurd rfl rightIsNumber
        | finite _ _ _ => contradiction
        | infinite rightSign =>
            cases rightSign
            · obtain rfl := Option.some.inj (leftIs.symm.trans rightIs)
              exact Int.le_refl _
            · contradiction
      · rw [keeps.infinite] at leftIs
        obtain rfl := Option.some.inj leftIs
        exact (place_bounds rightIs).1

end KeepsOrder

def decimalUnits (places units : Nat) : Nat :=
  nearestUnits (roundHalfEven (units * Nat.pow 10 places) unitsPerOne * unitsPerOne)
    (Nat.pow 10 places)

theorem decimalUnits_zero (places : Nat) : decimalUnits places 0 = 0 := by
  have none := roundHalfEven_mul_self 0 unitsPerOne_pos
  rw [Nat.zero_mul] at none
  rw [decimalUnits, Nat.zero_mul, none, Nat.zero_mul, nearestUnits_zero]

theorem keepsOrder_roundPlaces (places : Nat) :
    KeepsOrder (roundPlaces places) (onMagnitude (decimalUnits places)) where
  mono := by
    refine onMagnitude_mono (decimalUnits_zero places) fun low high atMost => ?_
    refine nearestUnits_mono (Nat.pow_pos (by decide)) (Nat.mul_le_mul_right _ ?_)
    exact roundHalfEven_mono (Nat.mul_le_mul_right _ atMost) _
  finite negative units inRange := by
    rw [onMagnitude_signed (decimalUnits_zero places)]
    exact place?_ofUnits _ _ _
  infinite _ := rfl

def productUnits (factor units : Nat) : Nat := nearestUnits (units * factor) unitsPerOne

theorem productUnits_zero (factor : Nat) : productUnits factor 0 = 0 := by
  rw [productUnits, Nat.zero_mul, nearestUnits_zero]

theorem keepsOrder_mul {factor : Nat} (inRange : factor < unitsLimit) (positive : 0 < factor) :
    KeepsOrder (fun number => number.mul (.finite false factor inRange))
      (onMagnitude (productUnits factor)) := by
  have sign (negative : Bool) : (negative != false) = negative := by cases negative <;> rfl
  constructor
  case mono =>
    exact onMagnitude_mono (productUnits_zero factor) fun low high atMost =>
      nearestUnits_mono unitsPerOne_pos (Nat.mul_le_mul_right _ atMost)
  case finite =>
    intro negative units _
    rw [onMagnitude_signed (productUnits_zero factor), mul, sign]
    exact place?_ofUnits _ _ _
  case infinite =>
    intro negative
    simp only [mul, if_neg positive.ne', sign]

theorem keepsOrder_add (sign : Bool) {units : Nat} (inRange : units < unitsLimit) :
    KeepsOrder (add (.finite sign units inRange)) fun place =>
      onMagnitude (nearestUnits · 1) (signed sign units + place) where
  mono atMost := onMagnitude_mono (nearestUnits_zero 1)
    (fun _ _ => nearestUnits_mono Nat.one_pos) (Int.add_le_add_left atMost _)
  finite otherSign otherUnits otherInRange := by
    change (if signed sign units + signed otherSign otherUnits = 0 then _ else _ :
      Binary64).place? = _
    split
    · rename_i isZero
      rw [isZero, onMagnitude, Int.natAbs_zero, nearestUnits_zero, signedZero, place?]
      cases sign && otherSign <;> rfl
    · exact place?_ofUnits _ _ _
  infinite _ := rfl

theorem place?_negate {number : Binary64} {place : Int} (isPlace : number.place? = some place) :
    number.negate.place? = some (-place) := by
  cases number with
  | finite negative units _ =>
      obtain rfl := Option.some.inj isPlace
      cases negative <;> simp [negate, place?, signed]
  | infinite negative =>
      obtain rfl := Option.some.inj isPlace
      cases negative <;> simp [negate, place?, signed]
  | nan => contradiction

theorem negate_lessOrEqual {left right : Binary64} (atMost : left.lessOrEqual right = true) :
    right.negate.lessOrEqual left.negate = true := by
  obtain ⟨leftIsNumber, rightIsNumber⟩ := isNumber_of_lessOrEqual atMost
  obtain ⟨leftPlace, leftIs⟩ := Binary64.exists_place? leftIsNumber
  obtain ⟨rightPlace, rightIs⟩ := Binary64.exists_place? rightIsNumber
  rw [lessOrEqual_iff_of_place? leftIs rightIs] at atMost
  rw [lessOrEqual_iff_of_place? (place?_negate rightIs) (place?_negate leftIs)]
  omega

theorem sub_lessOrEqual (sign : Bool) {units : Nat} (inRange : units < unitsLimit)
    {left right : Binary64} (atMost : left.lessOrEqual right = true) :
    (sub (.finite sign units inRange) right).lessOrEqual (sub (.finite sign units inRange) left) =
      true :=
  (keepsOrder_add sign inRange).lessOrEqual (negate_lessOrEqual atMost)

end Binary64

end ConversionTracking
