import ConversionTracking.Definition.Field
import Mathlib.Algebra.Order.Field.Rat
import Mathlib.Data.Rat.Cast.Order
import Mathlib.Tactic.Linarith

/-!
Numbers of every kind by their exact values: equal numbers have one value, and the value tells
whether a number is zero and which whole number it is.
-/

namespace ConversionTracking

theorem div_of_scaled {magnitude scale : Nat} (positive : 0 < scale) {negative : Bool} {whole : Int}
    (scaled : (if negative then -(magnitude : Int) else magnitude) = whole * scale) :
    magnitude % scale = 0 ∧
      (if negative then -((magnitude / scale : Nat) : Int) else (magnitude / scale : Nat)) = whole := by
  have isProduct : (magnitude : Int) = (if negative then -whole else whole) * scale := by
    cases negative <;> simp at scaled ⊢ <;> linarith
  have notZero : (scale : Int) ≠ 0 := Int.natCast_ne_zero.mpr positive.ne'
  constructor
  · apply Nat.mod_eq_zero_of_dvd
    apply Int.natCast_dvd_natCast.mp
    exact ⟨_, isProduct.trans (Int.mul_comm _ _)⟩
  · rw [Int.natCast_div, isProduct, Int.mul_ediv_cancel _ notZero]
    cases negative <;> simp

namespace Binary64

theorem cast_unitsPerOne_ne_zero : (unitsPerOne : ℚ) ≠ 0 :=
  Nat.cast_ne_zero.mpr unitsPerOne_pos.ne'

section

variable (negative : Bool) (units : Nat) (inRange : units < unitsLimit)

theorem toUnits?_finite : (finite negative units inRange).toUnits? =
    some (if negative then -(units : Int) else units) := rfl

theorem toInt?_finite : (finite negative units inRange).toInt? =
    if units % unitsPerOne = 0 then
      some (if negative then -((units / unitsPerOne : Nat) : Int) else (units / unitsPerOne : Nat))
    else none := rfl

theorem isZero_finite : (finite negative units inRange).isZero = (units == 0) := rfl

end

def rational? (number : Binary64) : Option ℚ :=
  number.toUnits?.map fun units : Int => (units : ℚ) / unitsPerOne

theorem rational?_eq_some_iff (number : Binary64) (value : ℚ) :
    number.rational? = some value ↔
      ∃ units : Int, number.toUnits? = some units ∧ (units : ℚ) = value * unitsPerOne := by
  rw [rational?, Option.map_eq_some_iff]
  simp only [div_eq_iff cast_unitsPerOne_ne_zero]

theorem toInt?_eq_some_of_rational? {number : Binary64} {whole : Int}
    (value : number.rational? = some (whole : ℚ)) : number.toInt? = some whole := by
  obtain ⟨units, isUnits, scaled⟩ := (rational?_eq_some_iff _ _).mp value
  have same : units = whole * (unitsPerOne : Int) := by exact_mod_cast scaled
  cases number with
  | finite negative magnitude inRange =>
      rw [toUnits?_finite, Option.some.injEq, same] at isUnits
      obtain ⟨divides, quotient⟩ := div_of_scaled unitsPerOne_pos isUnits
      rw [toInt?_finite, if_pos divides, quotient]
  | infinite _ | nan => contradiction

theorem isZero_iff (number : Binary64) : number.isZero = true ↔ number.rational? = some 0 := by
  rw [rational?_eq_some_iff]
  simp only [zero_mul, Int.cast_eq_zero, exists_eq_right]
  cases number with
  | finite negative units inRange =>
    rw [isZero_finite, toUnits?_finite]
    cases negative <;> simp
  | infinite _ | nan => exact iff_of_false Bool.false_ne_true (Option.some_ne_none 0).symm

theorem rational?_of_toInt? {number : Binary64} {whole : Int} (value : number.toInt? = some whole) :
    number.rational? = some (whole : ℚ) := by
  rw [rational?_eq_some_iff]
  cases number with
  | finite negative units inRange =>
      rw [toInt?_finite, Option.ite_none_right_eq_some, Option.some.injEq] at value
      obtain ⟨divides, rfl⟩ := value
      refine ⟨_, toUnits?_finite negative units inRange, ?_⟩
      obtain ⟨quotient, isProduct⟩ := Nat.dvd_of_mod_eq_zero divides
      rw [isProduct, Nat.mul_div_cancel_left _ unitsPerOne_pos]
      generalize unitsPerOne = perOne
      cases negative <;> simp [mul_comm]
  | infinite _ | nan => exact absurd value.symm (Option.some_ne_none whole)

theorem rational?_of_compareInt? {number : Binary64} {whole : Int}
    (same : number.compareInt? whole = some .eq) : number.rational? = some (whole : ℚ) := by
  rw [rational?_eq_some_iff]
  cases number with
  | finite negative units inRange =>
      have isEq : compare (if negative then -(units : Int) else units)
          (whole * (unitsPerOne : Int)) = .eq := Option.some.inj same
      refine ⟨_, toUnits?_finite negative units inRange, ?_⟩
      rw [compare_eq_iff_eq] at isEq
      rw [isEq]
      push_cast
      rfl
  | infinite negative =>
      cases negative <;> exact absurd (Option.some.inj same) (by decide)
  | nan => exact absurd same.symm (Option.some_ne_none _)

theorem rational?_of_equals {left right : Binary64} (same : left.equals right = true) :
    left.rational? = right.rational? := by
  have isEq := eq_of_beq same
  cases left with
  | finite leftSign leftUnits leftRange =>
      cases right with
      | finite rightSign rightUnits rightRange =>
          have units := compare_eq_iff_eq.mp (Option.some.inj isEq)
          rw [rational?, rational?, toUnits?_finite, toUnits?_finite, units]
      | infinite negative => cases negative <;> exact absurd (Option.some.inj isEq) (by decide)
      | nan => exact absurd isEq.symm (Option.some_ne_none _)
  | infinite leftSign =>
      cases right with
      | finite _ _ _ => cases leftSign <;> exact absurd (Option.some.inj isEq) (by decide)
      | infinite _ => rfl
      | nan => rfl
  | nan => exact absurd isEq.symm (Option.some_ne_none _)

end Binary64

namespace Decimal

def rational? (number : Decimal) : Option ℚ :=
  number.fraction?.map fun fraction : Int × Nat => (fraction.1 : ℚ) / fraction.2

theorem den_pos_of_fraction? {number : Decimal} {num : Int} {den : Nat}
    (isFraction : number.fraction? = some (num, den)) : 0 < den := by
  cases number with
  | finite negative coefficient exponent =>
      simp only [fraction?, Option.some.injEq, Prod.mk.injEq] at isFraction
      obtain ⟨_, rfl⟩ := isFraction
      split
      · exact Nat.pow_pos (by decide)
      · decide
  | infinite _ => simp [fraction?] at isFraction
  | nan _ _ _ => simp [fraction?] at isFraction

theorem rational?_eq_some_iff (number : Decimal) (value : ℚ) :
    number.rational? = some value ↔
      ∃ num den, number.fraction? = some (num, den) ∧ (num : ℚ) = value * den := by
  rw [rational?, Option.map_eq_some_iff]
  constructor
  · rintro ⟨⟨num, den⟩, isFraction, rfl⟩
    have notZero : (den : ℚ) ≠ 0 := Nat.cast_ne_zero.mpr (den_pos_of_fraction? isFraction).ne'
    exact ⟨num, den, isFraction, (div_mul_cancel₀ _ notZero).symm⟩
  · rintro ⟨num, den, isFraction, product⟩
    have notZero : (den : ℚ) ≠ 0 := Nat.cast_ne_zero.mpr (den_pos_of_fraction? isFraction).ne'
    exact ⟨_, isFraction, (div_eq_iff notZero).mpr product⟩

theorem isZero_iff (number : Decimal) : number.isZero = true ↔ number.rational? = some 0 := by
  rw [rational?_eq_some_iff]
  cases number with
  | finite negative coefficient exponent =>
      simp only [isZero, fraction?, beq_iff_eq, zero_mul, Int.cast_eq_zero, Option.some.injEq,
        Prod.mk.injEq]
      by_cases below : exponent < 0 <;> cases negative <;> simp [below]
  | infinite _ | nan _ _ _ => simp [isZero, fraction?]

theorem rational?_of_equalsInt {number : Decimal} {whole : Int}
    (same : number.equalsInt whole = true) : number.rational? = some (whole : ℚ) := by
  rw [rational?_eq_some_iff]
  unfold equalsInt at same
  split at same
  · rename_i num den isFraction
    exact ⟨num, den, isFraction, by exact_mod_cast beq_iff_eq.mp same⟩
  · contradiction

theorem rational?_of_equalsBinary64 {number : Decimal} {value : Binary64}
    (same : number.equalsBinary64 value = true) : number.rational? = value.rational? := by
  unfold equalsBinary64 at same
  split at same
  · rfl
  · split at same
    · rename_i num den units isFraction isUnits
      have notZero : (den : ℚ) ≠ 0 := Nat.cast_ne_zero.mpr (den_pos_of_fraction? isFraction).ne'
      rw [rational?, isFraction, Binary64.rational?, isUnits, Option.map_some, Option.map_some,
        Option.some.injEq, div_eq_div_iff notZero Binary64.cast_unitsPerOne_ne_zero]
      exact_mod_cast beq_iff_eq.mp same
    · contradiction

theorem rational?_of_equals {left right : Decimal} (same : left.equals right = true) :
    left.rational? = right.rational? := by
  unfold equals at same
  split at same
  · rfl
  · split at same
    · rename_i leftNum leftDen rightNum rightDen isLeft isRight
      have leftNotZero : (leftDen : ℚ) ≠ 0 :=
        Nat.cast_ne_zero.mpr (den_pos_of_fraction? isLeft).ne'
      have rightNotZero : (rightDen : ℚ) ≠ 0 :=
        Nat.cast_ne_zero.mpr (den_pos_of_fraction? isRight).ne'
      rw [rational?, isLeft, rational?, isRight, Option.map_some, Option.map_some,
        Option.some.injEq, div_eq_div_iff leftNotZero rightNotZero]
      exact_mod_cast beq_iff_eq.mp same
    · contradiction

end Decimal

namespace Value

namespace Numeric

def rational? : Numeric → Option ℚ
  | .whole value => some value
  | .binary value => value.rational?
  | .decimal value => value.rational?

theorem rational?_of_equals {left right : Numeric} (same : left.equals right = true) :
    left.rational? = right.rational? := by
  cases left with
  | whole left =>
      cases right with
      | whole right => exact congrArg _ (congrArg _ (beq_iff_eq.mp same))
      | binary right => exact (Binary64.rational?_of_compareInt? (beq_iff_eq.mp same)).symm
      | decimal right => exact (Decimal.rational?_of_equalsInt same).symm
  | binary left =>
      cases right with
      | whole right => exact Binary64.rational?_of_compareInt? (beq_iff_eq.mp same)
      | binary right => exact Binary64.rational?_of_equals same
      | decimal right => exact (Decimal.rational?_of_equalsBinary64 same).symm
  | decimal left =>
      cases right with
      | whole right => exact Decimal.rational?_of_equalsInt same
      | binary right => exact Decimal.rational?_of_equalsBinary64 same
      | decimal right => exact Decimal.rational?_of_equals same

end Numeric

theorem isGiven_iff {value : Value} {number : Numeric} (isNumber : value.numeric? = some number) :
    value.isGiven = true ↔ number.rational? ≠ some 0 := by
  cases value with
  | bool value =>
      obtain rfl := Option.some.inj isNumber
      cases value <;> simp [isGiven, Numeric.rational?]
  | int value =>
      obtain rfl := Option.some.inj isNumber
      simp [isGiven, Numeric.rational?]
  | float value =>
      obtain rfl := Option.some.inj isNumber
      rw [isGiven, Numeric.rational?, ne_eq, ← Binary64.isZero_iff, Bool.not_eq_true',
        Bool.not_eq_true]
  | decimal value =>
      obtain rfl := Option.some.inj isNumber
      rw [isGiven, Numeric.rational?, ne_eq, ← Decimal.isZero_iff, Bool.not_eq_true',
        Bool.not_eq_true]
  | _ => contradiction

theorem equals_of_numeric_iff {left : Value} {number : Numeric}
    (isNumber : left.numeric? = some number) (right : Value) :
    left.equals right = true ↔ ∃ other, right.numeric? = some other ∧ number.equals other = true := by
  have scalars : left.equals right = left.equalScalars right := by
    cases left <;> first | contradiction | (unfold equals; rfl)
  rw [scalars]
  unfold equalScalars
  rw [isNumber]
  cases right.numeric? <;> simp

theorem numeric?_of_equals {left right : Value} {number : Numeric}
    (isNumber : left.numeric? = some number) (same : left.equals right = true) :
    ∃ other, right.numeric? = some other ∧ number.rational? = other.rational? := by
  obtain ⟨other, isOther, sameNumber⟩ := (equals_of_numeric_iff isNumber right).mp same
  exact ⟨other, isOther, Numeric.rational?_of_equals sameNumber⟩

end Value

namespace FieldKind

theorem wholeOfBinary_finite (negative : Bool) (units : Nat)
    (inRange : units < Binary64.unitsLimit) :
    wholeOfBinary (.finite negative units inRange) =
      match (Binary64.finite negative units inRange).toInt? with
      | none => .error .fractionalWhole
      | some whole =>
          if -0x8000000000000000 < whole ∧ whole < 0x8000000000000000 then .ok whole
          else .error .wholeTooLong := rfl

theorem wholeOfBinary_eq {number : Binary64} {whole : Int} (isWhole : number.toInt? = some whole) :
    wholeOfBinary number =
      if -0x8000000000000000 < whole ∧ whole < 0x8000000000000000 then .ok whole
      else .error .wholeTooLong := by
  cases number with
  | finite negative units inRange => rw [wholeOfBinary_finite, isWhole]
  | infinite _ | nan => contradiction

theorem toInt?_of_wholeOfBinary {number : Binary64} {whole : Int}
    (reads : wholeOfBinary number = .ok whole) : number.toInt? = some whole := by
  cases number with
  | finite negative units inRange =>
      rw [wholeOfBinary_finite] at reads
      revert reads
      cases (Binary64.finite negative units inRange).toInt? with
      | none =>
          intro reads
          cases reads
      | some value =>
          intro reads
          dsimp only at reads
          split at reads
          · rw [Except.ok.inj reads]
          · cases reads
  | infinite _ | nan => contradiction

theorem wholeOfBinary_of_rational? {number : Binary64} {whole : Int}
    (value : number.rational? = some (whole : ℚ)) :
    wholeOfBinary number = .ok whole ∨ wholeOfBinary number = .error .wholeTooLong := by
  rw [wholeOfBinary_eq (Binary64.toInt?_eq_some_of_rational? value)]
  split
  · exact Or.inl rfl
  · exact Or.inr rfl

theorem rational?_of_readWhole {value : Value} {number : Value.Numeric} {whole : Int}
    (isNumber : value.numeric? = some number) (reads : readWhole value = .ok whole) :
    number.rational? = some (whole : ℚ) := by
  cases value with
  | bool value =>
      obtain rfl := Option.some.inj isNumber
      obtain rfl := Except.ok.inj reads
      rfl
  | int value =>
      obtain rfl := Option.some.inj isNumber
      obtain rfl := Except.ok.inj reads
      rfl
  | float value =>
      obtain rfl := Option.some.inj isNumber
      exact Binary64.rational?_of_toInt? (toInt?_of_wholeOfBinary reads)
  | decimal value =>
      obtain rfl := Option.some.inj isNumber
      change wholeOfDecimal value = _ at reads
      unfold wholeOfDecimal at reads
      split at reads
      · contradiction
      · rename_i num den isFraction
        split at reads
        · rename_i divides
          obtain rfl := Except.ok.inj reads
          apply (Decimal.rational?_eq_some_iff _ _).mpr
          exact ⟨num, den, isFraction, by
            exact_mod_cast (Int.ediv_mul_cancel (Int.dvd_of_emod_eq_zero divides)).symm⟩
        · contradiction
  | _ => contradiction

end FieldKind

end ConversionTracking
