import ConversionTracking.Number.Binary64
import Mathlib.Algebra.Group.Nat.Defs

/-!
Bounds on the magnitudes of double-precision numbers. Rounding at most doubles a magnitude and at most
halves it, so that a few operations on numbers of moderate size stay far from the infinities.
-/

namespace ConversionTracking

theorem roundHalfEven_le (num den : Nat) : roundHalfEven num den ≤ num / den + 1 := by
  unfold roundHalfEven
  dsimp only
  split
  · omega
  · split <;> omega

theorem div_le_roundHalfEven (num den : Nat) : num / den ≤ roundHalfEven num den := by
  unfold roundHalfEven
  dsimp only
  split
  · omega
  · split <;> omega

namespace Binary64

theorem spacing_cases (quotient : Nat) :
    0 < Nat.pow 2 (quotient.log2 - 52) ∧
      (Nat.pow 2 (quotient.log2 - 52) = 1 ∨ Nat.pow 2 (quotient.log2 - 52) ≤ quotient) := by
  refine ⟨Nat.pow_pos (by decide), ?_⟩
  -- Up to 53 bits every whole quotient is a number of its own.
  by_cases isSmall : quotient.log2 ≤ 52
  · left
    rw [Nat.sub_eq_zero_of_le isSmall]
  · right
    have notZero : quotient ≠ 0 := by
      rintro rfl
      exact isSmall (by decide)
    have exponent_le : quotient.log2 - 52 ≤ quotient.log2 := Nat.sub_le _ _
    have power : 2 ^ (quotient.log2 - 52) ≤ 2 ^ quotient.log2 :=
      Nat.pow_le_pow_right (by decide) exponent_le
    exact Nat.le_trans power (Nat.log2_self_le notZero)

theorem roundUnits_le (num den : Nat) : roundUnits num den ≤ 2 * (num / den) + 1 := by
  have spacing := spacing_cases (num / den)
  have rounded := roundHalfEven_le num (den * Nat.pow 2 ((num / den).log2 - 52))
  rw [← Nat.div_div_eq_div_mul] at rounded
  rw [roundUnits]
  generalize Nat.pow 2 ((num / den).log2 - 52) = width at spacing rounded ⊢
  generalize num / den = quotient at spacing rounded ⊢
  obtain ⟨_, isOne | isBelow⟩ := spacing
  · subst isOne
    rw [Nat.div_one] at rounded
    omega
  · have scaled := Nat.mul_le_mul_right width rounded
    have floor := Nat.div_mul_le_self quotient width
    rw [Nat.add_mul, Nat.one_mul] at scaled
    omega

theorem div_le_two_mul_roundUnits (num den : Nat) : num / den ≤ 2 * roundUnits num den := by
  have spacing := spacing_cases (num / den)
  have rounded := div_le_roundHalfEven num (den * Nat.pow 2 ((num / den).log2 - 52))
  rw [← Nat.div_div_eq_div_mul] at rounded
  rw [roundUnits]
  generalize Nat.pow 2 ((num / den).log2 - 52) = width at spacing rounded ⊢
  generalize num / den = quotient at spacing rounded ⊢
  obtain ⟨positive, isOne | isBelow⟩ := spacing
  · subst isOne
    rw [Nat.div_one] at rounded
    omega
  · have scaled := Nat.mul_le_mul_right width rounded
    have atLeastOne : 1 ≤ quotient / width := (Nat.one_le_div_iff positive).mpr isBelow
    have width_le := Nat.mul_le_mul_right width atLeastOne
    have floor := Nat.lt_mul_div_succ quotient positive
    rw [Nat.mul_add, Nat.mul_one, Nat.mul_comm] at floor
    omega

theorem exists_pow_factor (low high : Nat) (above : low + 128 ≤ high) :
    ∃ factor, 2 ^ 128 ≤ factor ∧ Nat.pow 2 high = factor * Nat.pow 2 low := by
  have difference : 128 ≤ high - low := by omega
  refine ⟨2 ^ (high - low), Nat.pow_le_pow_right (by decide) difference, ?_⟩
  have sum : high - low + low = high := by omega
  have product := Nat.pow_add 2 (high - low) low
  rw [sum] at product
  exact product

theorem exists_unitsLimit_eq : ∃ factor, 2 ^ 128 ≤ factor ∧ unitsLimit = factor * unitsPerOne := by
  unfold unitsLimit unitsPerOne
  exact exists_pow_factor 1074 2098 (by decide)

theorem thousand_le_unitsPerOne : 1000 ≤ unitsPerOne := by
  have power : ∀ exponent, 10 ≤ exponent → 2 ^ 10 ≤ Nat.pow 2 exponent := by
    intro exponent large
    exact Nat.pow_le_pow_right (by decide) large
  have large := power 1074 (by decide)
  unfold unitsPerOne
  exact Nat.le_trans (by decide : 1000 ≤ 2 ^ 10) large

theorem lt_unitsLimit {units bound : Nat} (bounded : units ≤ bound * unitsPerOne)
    (moderate : bound < 2 ^ 128) : units < unitsLimit := by
  obtain ⟨factor, large, limit⟩ := exists_unitsLimit_eq
  have below := Nat.lt_of_lt_of_le moderate large
  rw [limit]
  exact Nat.lt_of_le_of_lt bounded (Nat.mul_lt_mul_of_pos_right below unitsPerOne_pos)

def IsAtMost (number : Binary64) (bound : Nat) : Prop :=
  match number with
  | .finite _ units _ => units ≤ bound * unitsPerOne
  | _ => False

variable {number left right : Binary64} {bound leftBound rightBound : Nat}

theorem IsAtMost.weaken (atMost : number.IsAtMost leftBound) (weaker : leftBound ≤ rightBound) :
    number.IsAtMost rightBound := by
  cases number with
  | finite negative units inRange => exact Nat.le_trans atMost (Nat.mul_le_mul_right _ weaker)
  | infinite negative => exact atMost
  | nan => exact atMost

theorem IsAtMost.exists_finite (atMost : number.IsAtMost bound) :
    ∃ negative units inRange, number = .finite negative units inRange := by
  cases number with
  | finite negative units inRange => exact ⟨negative, units, inRange, rfl⟩
  | infinite negative => exact atMost.elim
  | nan => exact atMost.elim

theorem isAtMost_signedZero (negative : Bool) (bound : Nat) : (signedZero negative).IsAtMost bound :=
  Nat.zero_le _

theorem isAtMost_ofUnits (negative : Bool) {num den : Nat}
    (bounded : num / den ≤ bound * unitsPerOne) (moderate : 2 * bound + 1 < 2 ^ 128) :
    (ofUnits negative num den).IsAtMost (2 * bound + 1) := by
  have units_le : roundUnits num den ≤ (2 * bound + 1) * unitsPerOne := by
    have rounded := roundUnits_le num den
    have large := thousand_le_unitsPerOne
    rw [Nat.add_mul, Nat.mul_assoc]
    omega
  rw [ofUnits, dif_pos (lt_unitsLimit units_le moderate)]
  exact units_le

theorem isAtMost_ofRatio (negative : Bool) (num den : Nat) (moderate : 2 * num + 1 < 2 ^ 128) :
    (ofRatio negative num den).IsAtMost (2 * num + 1) :=
  isAtMost_ofUnits negative (Nat.div_le_self _ _) moderate

theorem IsAtMost.negate (atMost : number.IsAtMost bound) : number.negate.IsAtMost bound := by
  cases number with
  | finite negative units inRange => exact atMost
  | infinite negative => exact atMost
  | nan => exact atMost

theorem IsAtMost.add (leftAtMost : left.IsAtMost leftBound) (rightAtMost : right.IsAtMost rightBound)
    (moderate : 2 * (leftBound + rightBound) + 1 < 2 ^ 128) :
    (left.add right).IsAtMost (2 * (leftBound + rightBound) + 1) := by
  obtain ⟨leftSign, leftUnits, leftInRange, rfl⟩ := leftAtMost.exists_finite
  obtain ⟨rightSign, rightUnits, rightInRange, rfl⟩ := rightAtMost.exists_finite
  simp only [IsAtMost] at leftAtMost rightAtMost
  have sum_le : ((if leftSign then -(leftUnits : Int) else leftUnits) +
      (if rightSign then -(rightUnits : Int) else rightUnits)).natAbs ≤
        (leftBound + rightBound) * unitsPerOne := by
    rw [Nat.add_mul]
    split <;> split <;> omega
  rw [Binary64.add]
  generalize (if leftSign then -(leftUnits : Int) else leftUnits) +
    (if rightSign then -(rightUnits : Int) else rightUnits) = sum at sum_le ⊢
  by_cases isZero : sum = 0
  · rw [if_pos isZero]
    exact isAtMost_signedZero _ _
  · rw [if_neg isZero]
    exact isAtMost_ofUnits _ (by rwa [Nat.div_one]) moderate

theorem IsAtMost.sub (leftAtMost : left.IsAtMost leftBound) (rightAtMost : right.IsAtMost rightBound)
    (moderate : 2 * (leftBound + rightBound) + 1 < 2 ^ 128) :
    (left.sub right).IsAtMost (2 * (leftBound + rightBound) + 1) :=
  leftAtMost.add rightAtMost.negate moderate

theorem IsAtMost.mul (leftAtMost : left.IsAtMost leftBound) (rightAtMost : right.IsAtMost rightBound)
    (moderate : 2 * (leftBound * rightBound) + 1 < 2 ^ 128) :
    (left.mul right).IsAtMost (2 * (leftBound * rightBound) + 1) := by
  obtain ⟨leftSign, leftUnits, leftInRange, rfl⟩ := leftAtMost.exists_finite
  obtain ⟨rightSign, rightUnits, rightInRange, rfl⟩ := rightAtMost.exists_finite
  simp only [IsAtMost] at leftAtMost rightAtMost
  refine isAtMost_ofUnits _ ?_ moderate
  apply Nat.div_le_of_le_mul
  generalize unitsPerOne = unit at leftAtMost rightAtMost ⊢
  calc leftUnits * rightUnits
      ≤ leftBound * unit * (rightBound * unit) := Nat.mul_le_mul leftAtMost rightAtMost
    _ = unit * (leftBound * rightBound * unit) := by ac_rfl

def IsNotTiny (number : Binary64) : Prop :=
  match number with
  | .finite _ units _ => unitsPerOne ≤ 256 * units
  | _ => False

theorem IsAtMost.div (leftAtMost : left.IsAtMost leftBound) (notTiny : right.IsNotTiny)
    (moderate : 2 * (256 * leftBound) + 1 < 2 ^ 128) :
    (left.div right).IsAtMost (2 * (256 * leftBound) + 1) := by
  obtain ⟨leftSign, leftUnits, leftInRange, rfl⟩ := leftAtMost.exists_finite
  cases right with
  | infinite negative => exact notTiny.elim
  | nan => exact notTiny.elim
  | finite rightSign rightUnits rightInRange =>
      simp only [IsAtMost] at leftAtMost
      simp only [IsNotTiny] at notTiny
      have large := thousand_le_unitsPerOne
      have notZero : ¬rightUnits = 0 := by omega
      simp only [Binary64.div, if_neg notZero]
      refine isAtMost_ofUnits _ ?_ moderate
      apply Nat.div_le_of_le_mul
      generalize unitsPerOne = unit at leftAtMost notTiny ⊢
      calc leftUnits * unit
          ≤ leftBound * unit * (256 * rightUnits) := Nat.mul_le_mul leftAtMost notTiny
        _ = rightUnits * (256 * leftBound * unit) := by ac_rfl

theorem roundHalfEven_units_le {units : Nat} (atMost : units ≤ bound * unitsPerOne) (scale : Nat) :
    roundHalfEven (units * scale) unitsPerOne ≤ bound * scale + 1 := by
  have rounded := roundHalfEven_le (units * scale) unitsPerOne
  have quotient_le : units * scale / unitsPerOne ≤ bound * scale := by
    apply Nat.div_le_of_le_mul
    generalize unitsPerOne = unit at atMost ⊢
    calc units * scale
        ≤ bound * unit * scale := Nat.mul_le_mul_right scale atMost
      _ = unit * (bound * scale) := by ac_rfl
  omega

theorem IsAtMost.roundPlaces (atMost : number.IsAtMost bound) (places : Nat)
    (moderate : 2 * (bound + 1) + 1 < 2 ^ 128) :
    (number.roundPlaces places).IsAtMost (2 * (bound + 1) + 1) := by
  obtain ⟨negative, units, inRange, rfl⟩ := atMost.exists_finite
  have scalePositive : 0 < Nat.pow 10 places := Nat.pow_pos (by decide)
  refine isAtMost_ofUnits _ ?_ moderate
  apply Nat.div_le_of_le_mul
  have rounded := roundHalfEven_units_le atMost (Nat.pow 10 places)
  generalize Nat.pow 10 places = scale at scalePositive rounded ⊢
  generalize unitsPerOne = unit at rounded ⊢
  calc roundHalfEven (units * scale) unit * unit
      ≤ (bound * scale + 1) * unit := Nat.mul_le_mul_right _ rounded
    _ ≤ (bound * scale + scale) * unit :=
        Nat.mul_le_mul_right _ (Nat.add_le_add_left scalePositive _)
    _ = scale * ((bound + 1) * unit) := by
        rw [Nat.add_mul, Nat.add_mul, Nat.mul_add, Nat.one_mul]
        ac_rfl

theorem isNotTiny_roundPlaces (atMost : (number.roundPlaces 2).IsAtMost bound)
    (positive : zero.less (number.roundPlaces 2) = true) : (number.roundPlaces 2).IsNotTiny := by
  cases number with
  | infinite negative => exact atMost.elim
  | nan => exact atMost.elim
  | finite negative units inRange =>
      simp only [roundPlaces, ofRatio, ofUnits] at atMost positive ⊢
      have large := thousand_le_unitsPerOne
      split at positive
      · rename_i roundedInRange
        rw [dif_pos roundedInRange]
        have lower := div_le_two_mul_roundUnits
          (roundHalfEven (units * Nat.pow 10 2) unitsPerOne * unitsPerOne) (Nat.pow 10 2)
        have notZero : roundUnits
            (roundHalfEven (units * Nat.pow 10 2) unitsPerOne * unitsPerOne) (Nat.pow 10 2) ≠ 0 := by
          intro isZero
          simp [isZero, zero, signedZero, less, compare?] at positive
        have scale : Nat.pow 10 2 = 100 := by decide
        simp only [IsNotTiny]
        by_cases noHundredth : roundHalfEven (units * Nat.pow 10 2) unitsPerOne = 0
        · rw [noHundredth, Nat.zero_mul] at notZero
          exact absurd (by decide) notZero
        · have hundredth : unitsPerOne ≤
              roundHalfEven (units * Nat.pow 10 2) unitsPerOne * unitsPerOne :=
            Nat.le_mul_of_pos_left _ (Nat.pos_of_ne_zero noHundredth)
          rw [scale] at lower hundredth ⊢
          omega
      · rename_i isOver
        rw [dif_neg isOver] at atMost
        exact atMost.elim

-- The bounds are used through the lemmas above; unfolding them would evaluate the numbers.
attribute [irreducible] IsAtMost IsNotTiny

end Binary64

end ConversionTracking
