import ConversionTracking.Number.Numeral
import ConversionTracking.Proofs.Number.Nearest
import Mathlib.Algebra.Order.Field.Rat
import Mathlib.Data.Rat.Cast.Order
import Mathlib.Algebra.Order.Field.Basic
import Mathlib.Tactic.Linarith
import Mathlib.Tactic.Ring

/-!
The number of double precision nearest to a decimal. Its magnitude has at most 53 significant bits, no
other one of so many bits is closer, and of two equally close ones it is the even one, which leaves no
choice. From half a unit in the last place below 2¹⁰²⁴ on it is an infinity.
-/

namespace ConversionTracking

namespace Binary64

def IsEven (units : Nat) : Prop := ∃ half power, half < 2 ^ 52 ∧ units = 2 * half * 2 ^ power

/-- The number of units with at most 53 significant bits that is nearest to the exact one; of two equally
near ones the even one. -/
structure IsRounded (exact : ℚ) (units : Nat) : Prop where
  isShort : IsShort units
  isClosest : ∀ other : Nat, IsShort other → |(units : ℚ) - exact| ≤ |(other : ℚ) - exact|
  isEven : ∀ other : Nat, IsShort other → other ≠ units →
    |(other : ℚ) - exact| = |(units : ℚ) - exact| → IsEven units

/-- The number of double precision that is nearest to a magnitude with a sign. -/
inductive IsNearestTo (negative : Bool) (magnitude : ℚ) : Binary64 → Prop where
  | finite {units : Nat} (inRange : units < unitsLimit) (isSmall : magnitude < wholeLimit)
      (isRounded : IsRounded (magnitude * unitsPerOne) units) :
      IsNearestTo negative magnitude (.finite negative units inRange)
  | infinite (isLarge : (wholeLimit : ℚ) ≤ magnitude) :
      IsNearestTo negative magnitude (.infinite negative)

theorem isShort_odd {half : Nat} (few : half < 2 ^ 52) (power : Nat) :
    IsShort ((2 * half + 1) * 2 ^ power : Nat) :=
  ⟨2 * half + 1, power, by omega, rfl⟩

theorem isEven_of_few {significand : Nat} (few : significand ≤ 2 ^ 53) (isEven : significand % 2 = 0)
    (power : Nat) : IsEven (significand * 2 ^ power) := by
  rcases Nat.lt_or_eq_of_le few with fewer | rfl
  · refine ⟨significand / 2, power, by omega, ?_⟩
    rw [Nat.mul_div_cancel' (Nat.dvd_of_mod_eq_zero isEven)]
  · refine ⟨2 ^ 51, power + 1, by decide, ?_⟩
    rw [Nat.pow_succ]
    omega

theorem exists_odd_between {low high scale : Nat} (below : 2 * low * scale < 2 * high * scale) :
    2 * low * scale < (2 * low + 1) * scale ∧ (2 * low + 1) * scale < 2 * high * scale ∧
      2 * low * scale < (2 * (high - 1) + 1) * scale ∧
        (2 * (high - 1) + 1) * scale < 2 * high * scale := by
  have positive : 0 < scale := Nat.pos_of_ne_zero (by rintro rfl; simp at below)
  have halves := Nat.lt_of_mul_lt_mul_right below
  refine ⟨?_, ?_, ?_, ?_⟩ <;> exact Nat.mul_lt_mul_of_pos_right (by omega) positive

theorem IsEven.exists_between {low high : Nat} (lowEven : IsEven low) (highEven : IsEven high)
    (below : low < high) : ∃ middle : Nat, IsShort middle ∧ low < middle ∧ middle < high := by
  obtain ⟨lowHalf, lowPower, lowFew, rfl⟩ := lowEven
  obtain ⟨highHalf, highPower, highFew, rfl⟩ := highEven
  rcases Nat.le_total lowPower highPower with powers | powers
  · obtain ⟨more, rfl⟩ := Nat.exists_eq_add_of_le powers
    have scaled : 2 * highHalf * 2 ^ (lowPower + more) = 2 * (highHalf * 2 ^ more) * 2 ^ lowPower := by
      rw [Nat.pow_add]
      ac_rfl
    rw [scaled] at below ⊢
    obtain ⟨above, under, _⟩ := exists_odd_between below
    exact ⟨_, isShort_odd lowFew lowPower, above, under⟩
  · obtain ⟨more, rfl⟩ := Nat.exists_eq_add_of_le powers
    have scaled : 2 * lowHalf * 2 ^ (highPower + more) = 2 * (lowHalf * 2 ^ more) * 2 ^ highPower := by
      rw [Nat.pow_add]
      ac_rfl
    rw [scaled] at below ⊢
    obtain ⟨_, _, above, under⟩ := exists_odd_between below
    exact ⟨_, isShort_odd (Nat.lt_of_le_of_lt (Nat.sub_le _ 1) highFew) highPower, above, under⟩

theorem abs_sub_lt_of_between {low middle high exact : ℚ} (above : low < middle) (below : middle < high)
    (equal : |low - exact| = |high - exact|) : |middle - exact| < |high - exact| := by
  have far : |high - exact| = high - exact := by
    rcases abs_cases (high - exact) with ⟨isAbove, _⟩ | ⟨isBelow, _⟩
    · exact isAbove
    · rw [isBelow] at equal
      rcases abs_cases (low - exact) with ⟨isLow, _⟩ | ⟨isLow, _⟩ <;> linarith
  rw [far] at equal ⊢
  rcases abs_cases (low - exact) with ⟨isLow, _⟩ | ⟨isLow, _⟩
  · linarith
  · rcases abs_cases (middle - exact) with ⟨isMiddle, _⟩ | ⟨isMiddle, _⟩ <;> linarith

theorem IsRounded.not_lt {exact : ℚ} {low high : Nat} (isLow : IsRounded exact low)
    (isHigh : IsRounded exact high) : ¬low < high := by
  intro below
  have equal := le_antisymm (isLow.isClosest high isHigh.isShort) (isHigh.isClosest low isLow.isShort)
  have lowEven := isLow.isEven high isHigh.isShort below.ne' equal.symm
  have highEven := isHigh.isEven low isLow.isShort below.ne equal
  obtain ⟨middle, isShort, above, under⟩ := lowEven.exists_between highEven below
  have closer := abs_sub_lt_of_between (Nat.cast_lt.mpr above) (Nat.cast_lt.mpr under) equal
  exact absurd (isHigh.isClosest middle isShort) (not_le.mpr closer)

theorem IsRounded.unique {exact : ℚ} {first second : Nat} (isFirst : IsRounded exact first)
    (isSecond : IsRounded exact second) : first = second :=
  Nat.le_antisymm (Nat.le_of_not_lt (isSecond.not_lt isFirst)) (Nat.le_of_not_lt (isFirst.not_lt isSecond))

theorem IsNearestTo.unique {negative : Bool} {magnitude : ℚ} {first second : Binary64}
    (isFirst : IsNearestTo negative magnitude first) (isSecond : IsNearestTo negative magnitude second) :
    first = second := by
  cases isFirst with
  | finite _ isSmall firstRounded =>
      cases isSecond with
      | finite _ _ secondRounded =>
          obtain rfl := firstRounded.unique secondRounded
          rfl
      | infinite isLarge => exact absurd isSmall (not_lt.mpr isLarge)
  | infinite isLarge =>
      cases isSecond with
      | finite _ isSmall _ => exact absurd isSmall (not_lt.mpr isLarge)
      | infinite => rfl

section

variable {num den : Nat} (positive : 0 < den)

include positive

theorem abs_sub_quotient (units : Nat) :
    |(units : ℚ) - (num : ℚ) / den| =
      ((((units * den : Nat) - num : Int).natAbs : Nat) : ℚ) / den := by
  have denPositive : (0 : ℚ) < den := Nat.cast_pos.mpr positive
  have difference :
      (units : ℚ) - (num : ℚ) / den = (((units * den : Nat) - num : Int) : ℚ) / den := by
    rw [sub_div' denPositive.ne']
    push_cast
    rfl
  rw [difference, abs_div, abs_of_pos denPositive, Nat.cast_natAbs, Int.cast_abs]

theorem isEven_roundUnits {other : Nat} (isShort : IsShort other) (isOther : other ≠ roundUnits num den)
    (asClose : ((other * den : Nat) - num : Int).natAbs =
      ((roundUnits num den * den : Nat) - num : Int).natAbs) : IsEven (roundUnits num den) := by
  rcases isShort.dvd_or_lt (num / den) with ⟨quotient, rfl⟩ | ⟨isBelow, isReached⟩
  · have few := roundHalfEven_spacing_le num den
    have scaled := roundUnits_eq num den
    rw [scaled, Nat.mul_comm (spacing _), Nat.mul_assoc, Nat.mul_assoc,
      Nat.mul_comm (spacing _)] at asClose
    rw [scaled, Nat.mul_comm (spacing _)] at isOther
    have isEven := roundHalfEven_isEven (Nat.mul_pos positive (spacing_pos (num / den)))
      (fun same => isOther (same ▸ rfl)) asClose
    rw [scaled]
    exact isEven_of_few few isEven _
  · have closer := roundUnits_closer_of_lt positive isBelow isReached
    omega

theorem isRounded_roundUnits : IsRounded ((num : ℚ) / den) (roundUnits num den) := by
  have denPositive : (0 : ℚ) < den := Nat.cast_pos.mpr positive
  constructor
  case isShort => exact isShort_roundUnits num den
  case isClosest =>
    intro other isShort
    have closest : ((roundUnits num den * den : Nat) - num : Int).natAbs ≤
        ((other * den : Nat) - num : Int).natAbs := roundUnits_isClosest positive isShort
    rw [abs_sub_quotient positive, abs_sub_quotient positive]
    exact div_le_div_of_nonneg_right (Nat.cast_le.mpr closest) denPositive.le
  case isEven =>
    intro other isShort isOther asClose
    rw [abs_sub_quotient positive, abs_sub_quotient positive, div_left_inj' denPositive.ne',
      Nat.cast_inj] at asClose
    exact isEven_roundUnits positive isShort isOther asClose

theorem ofRatio_isNearestTo (negative : Bool) :
    IsNearestTo negative ((num : ℚ) / den) (ofRatio negative num den) := by
  have denPositive : (0 : ℚ) < den := Nat.cast_pos.mpr positive
  have small_iff : (num : ℚ) / den < wholeLimit ↔ num < wholeLimit * den := by
    rw [div_lt_iff₀ denPositive, ← Nat.cast_mul, Nat.cast_lt]
  have scaled : (num : ℚ) / den * unitsPerOne = ((num * unitsPerOne : Nat) : ℚ) / den := by
    rw [div_mul_eq_mul_div, Nat.cast_mul]
  rw [ofRatio, ofUnits]
  split
  · rename_i inRange
    refine .finite inRange (small_iff.mpr ((roundUnits_lt_iff positive).mp inRange)) ?_
    rw [scaled]
    exact isRounded_roundUnits positive
  · rename_i notInRange
    rw [roundUnits_lt_iff positive, ← small_iff, not_lt] at notInRange
    exact .infinite notInRange

end

theorem ofRatio_of_small (negative : Bool) {num den : Nat} (isSmall : 2 * (num * unitsPerOne) < den) :
    ofRatio negative num den = signedZero negative := by
  have rounds : roundUnits (num * unitsPerOne) den = 0 := by
    have below : num * unitsPerOne < den := by omega
    rw [roundUnits_eq, Nat.div_eq_of_lt below, roundHalfEven, spacing]
    simp [Nat.div_eq_of_lt below, Nat.mod_eq_of_lt below, isSmall]
  simp only [ofRatio, ofUnits, rounds, dif_pos unitsLimit_pos]
  rfl

section

variable {base other numerator denominator : Nat} (basePositive : 0 < base) (positive : 0 < denominator)

include basePositive positive

theorem pow_div_le (powers : base ^ numerator ≤ other ^ denominator) (bits : Nat) :
    base ^ (bits * numerator / denominator) ≤ other ^ bits := by
  rw [← Nat.pow_le_pow_iff_left positive.ne']
  calc (base ^ (bits * numerator / denominator)) ^ denominator
      = base ^ (bits * numerator / denominator * denominator) := (Nat.pow_mul ..).symm
    _ ≤ base ^ (bits * numerator) := Nat.pow_le_pow_right basePositive (Nat.div_mul_le_self _ _)
    _ = (base ^ numerator) ^ bits := by rw [Nat.mul_comm, Nat.pow_mul]
    _ ≤ (other ^ denominator) ^ bits := Nat.pow_le_pow_left powers bits
    _ = (other ^ bits) ^ denominator := Nat.pow_right_comm ..

theorem pow_le_div (powers : other ^ denominator ≤ base ^ numerator) (bits : Nat) :
    other ^ bits ≤ base ^ (bits * numerator / denominator + 1) := by
  have next : bits * numerator ≤ (bits * numerator / denominator + 1) * denominator := by
    rw [Nat.succ_mul]
    exact (Nat.lt_div_mul_add positive).le
  rw [← Nat.pow_le_pow_iff_left positive.ne']
  calc (other ^ bits) ^ denominator
      = (other ^ denominator) ^ bits := Nat.pow_right_comm ..
    _ ≤ (base ^ numerator) ^ bits := Nat.pow_le_pow_left powers bits
    _ = base ^ (bits * numerator) := by rw [← Nat.pow_mul, Nat.mul_comm]
    _ ≤ base ^ ((bits * numerator / denominator + 1) * denominator) :=
        Nat.pow_le_pow_right basePositive next
    _ = (base ^ (bits * numerator / denominator + 1)) ^ denominator := Nat.pow_mul ..

end

theorem ten_pow_le (bits : Nat) : 10 ^ (bits * 30102 / 100000) ≤ 2 ^ bits :=
  pow_div_le (by decide) (by decide) (by decide +kernel) bits

theorem le_ten_pow (bits : Nat) : 2 ^ bits ≤ 10 ^ (bits * 30103 / 100000 + 1) :=
  pow_le_div (by decide) (by decide) (by decide +kernel) bits

section

variable {digits : Nat} {exponent : Int}

theorem large_of_least (notZero : digits ≠ 0)
    (isLarge : 400 < exponent + (digits.log2 : Int) * 30102 / 100000) :
    wholeLimit * 10 ^ (-exponent).toNat ≤ digits * 10 ^ exponent.toNat := by
  have limit : wholeLimit ≤ 10 ^ 401 := by decide +kernel
  calc wholeLimit * 10 ^ (-exponent).toNat
      ≤ 10 ^ 401 * 10 ^ (-exponent).toNat := Nat.mul_le_mul_right _ limit
    _ = 10 ^ (401 + (-exponent).toNat) := by rw [Nat.pow_add]
    _ ≤ 10 ^ (digits.log2 * 30102 / 100000 + exponent.toNat) :=
        Nat.pow_le_pow_right (by decide) (by omega)
    _ = 10 ^ (digits.log2 * 30102 / 100000) * 10 ^ exponent.toNat := Nat.pow_add ..
    _ ≤ digits * 10 ^ exponent.toNat :=
        Nat.mul_le_mul_right _ (Nat.le_trans (ten_pow_le _) (Nat.log2_self_le notZero))

theorem small_of_most (isSmall : exponent + (digits.log2 : Int) * 30103 / 100000 < -400) :
    2 * (digits * 10 ^ exponent.toNat * unitsPerOne) < 10 ^ (-exponent).toNat := by
  have units : 4 * unitsPerOne < 10 ^ 399 := by decide +kernel
  have few : digits ≤ 2 * 10 ^ (digits.log2 * 30103 / 100000 + 1) := by
    have below := Nat.lt_log2_self (n := digits)
    have powers := le_ten_pow digits.log2
    rw [Nat.pow_succ] at below
    omega
  have positive : 0 < 10 ^ (digits.log2 * 30103 / 100000 + 1 + exponent.toNat) := Nat.pow_pos (by decide)
  calc 2 * (digits * 10 ^ exponent.toNat * unitsPerOne)
      ≤ 2 * (2 * 10 ^ (digits.log2 * 30103 / 100000 + 1) * 10 ^ exponent.toNat * unitsPerOne) :=
        Nat.mul_le_mul_left 2 (Nat.mul_le_mul_right _ (Nat.mul_le_mul_right _ few))
    _ = 4 * unitsPerOne * 10 ^ (digits.log2 * 30103 / 100000 + 1 + exponent.toNat) := by
        rw [Nat.pow_add _ _ exponent.toNat]
        ring
    _ < 10 ^ 399 * 10 ^ (digits.log2 * 30103 / 100000 + 1 + exponent.toNat) :=
        Nat.mul_lt_mul_of_pos_right units positive
    _ = 10 ^ (399 + (digits.log2 * 30103 / 100000 + 1 + exponent.toNat)) := by rw [Nat.pow_add _ 399]
    _ ≤ 10 ^ (-exponent).toNat := Nat.pow_le_pow_right (by decide) (by omega)

end

/-- The shortcuts for exponents far outside the range give what the quotient is rounded to. -/
theorem ofDecimal_eq_ofRatio (negative : Bool) (digits : Nat) (exponent : Int) :
    ofDecimal negative digits exponent =
      ofRatio negative (digits * 10 ^ exponent.toNat) (10 ^ (-exponent).toNat) := by
  have positive : 0 < 10 ^ (-exponent).toNat := Nat.pow_pos (by decide)
  unfold ofDecimal
  split
  · rename_i isZero
    rw [isZero, Nat.zero_mul, ofRatio_of_small negative (by rwa [Nat.zero_mul])]
  rename_i notZero
  dsimp only
  split
  · rename_i isLarge
    rw [ofRatio_of_large positive negative (large_of_least notZero isLarge)]
  split
  · rename_i isSmall
    rw [ofRatio_of_small negative (small_of_most isSmall)]
  split
  · rename_i isNegative
    obtain ⟨places, rfl⟩ : ∃ places : Nat, exponent = -places := ⟨exponent.natAbs, by omega⟩
    simp
  · rename_i notNegative
    obtain ⟨places, rfl⟩ := Int.eq_ofNat_of_zero_le (Int.not_lt.mp notNegative)
    simp

theorem ofDecimal_isNearestTo (negative : Bool) (digits : Nat) (exponent : Int) :
    IsNearestTo negative (digits * 10 ^ exponent) (ofDecimal negative digits exponent) := by
  have positive : 0 < 10 ^ (-exponent).toNat := Nat.pow_pos (by decide)
  have magnitude : (digits : ℚ) * 10 ^ exponent =
      ((digits * 10 ^ exponent.toNat : Nat) : ℚ) / (10 ^ (-exponent).toNat : Nat) := by
    obtain ⟨places, rfl | rfl⟩ := exponent.eq_nat_or_neg
    · simp
    · simp [div_eq_mul_inv]
  rw [magnitude, ofDecimal_eq_ofRatio]
  exact ofRatio_isNearestTo positive negative

end Binary64

namespace Numeral

def magnitude (numeral : Numeral) : ℚ := numeral.digits * 10 ^ numeral.exponent

theorem toBinary64_eq_iff (numeral : Numeral) (number : Binary64) :
    numeral.toBinary64 = number ↔
      Binary64.IsNearestTo numeral.negative numeral.magnitude number := by
  have isNearest := Binary64.ofDecimal_isNearestTo numeral.negative numeral.digits numeral.exponent
  constructor
  · rintro rfl
    exact isNearest
  · exact fun isNumber => isNearest.unique isNumber

end Numeral

end ConversionTracking
