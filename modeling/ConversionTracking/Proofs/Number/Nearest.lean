import ConversionTracking.Proofs.Number.Magnitude
import Mathlib.Algebra.Order.Ring.Int
import Mathlib.Order.Compare

/-!
Whole numbers in double precision: they are rounded to 53 significant bits, which keeps their order and
changes none that has no more bits, and they are in range below one limit.
-/

namespace ConversionTracking

theorem roundHalfEven_mul_right (num den : Nat) {scale : Nat} (positive : 0 < scale) :
    roundHalfEven (num * scale) (den * scale) = roundHalfEven num den := by
  have doubled : 2 * (num % den * scale) = 2 * (num % den) * scale := by rw [Nat.mul_assoc]
  unfold roundHalfEven
  dsimp only
  rw [Nat.mul_div_mul_right _ _ positive, Nat.mul_mod_mul_right, doubled]
  simp only [Nat.mul_lt_mul_right positive]

theorem roundHalfEven_mul_self (quotient : Nat) {den : Nat} (positive : 0 < den) :
    roundHalfEven (quotient * den) den = quotient := by
  have noRest : 2 * (quotient * den % den) < den := by
    rw [Nat.mul_mod_left]
    exact positive
  rw [roundHalfEven, if_pos noRest, Nat.mul_div_cancel _ positive]

theorem roundHalfEven_mono {low high : Nat} (atMost : low ≤ high) (den : Nat) :
    roundHalfEven low den ≤ roundHalfEven high den := by
  have quotients := Nat.div_le_div_right (c := den) atMost
  rcases Nat.lt_or_eq_of_le quotients with below | same
  · calc roundHalfEven low den
        ≤ low / den + 1 := roundHalfEven_le low den
      _ ≤ high / den := below
      _ ≤ roundHalfEven high den := div_le_roundHalfEven high den
  · have lowParts := Nat.div_add_mod low den
    have highParts := Nat.div_add_mod high den
    have rests : low % den ≤ high % den := by
      rw [same] at lowParts
      omega
    unfold roundHalfEven
    dsimp only
    rw [same]
    split <;> split <;> (try split) <;> (try split) <;> omega

/-- No multiple of the denominator is closer to the numerator than the rounded one. -/
theorem roundHalfEven_isNearest (num quotient : Nat) {den : Nat} (positive : 0 < den) :
    ((roundHalfEven num den * den : Nat) - num : Int).natAbs ≤
      ((quotient * den : Nat) - num : Int).natAbs := by
  have parts := Nat.div_add_mod' num den
  have rest := Nat.mod_lt num positive
  have apart : quotient * den ≤ num / den * den ∨ num / den * den + den ≤ quotient * den := by
    rcases Nat.lt_or_ge (num / den) quotient with above | below
    · have atLeast := Nat.mul_le_mul_right den (Nat.succ_le_of_lt above)
      rw [Nat.succ_mul] at atLeast
      exact .inr atLeast
    · exact .inl (Nat.mul_le_mul_right den below)
  have next := Nat.succ_mul (num / den) den
  unfold roundHalfEven
  dsimp only
  rw [Nat.succ_eq_add_one] at next
  split
  · omega
  · split
    · omega
    · rcases Nat.mod_two_eq_zero_or_one (num / den) with even | odd
      · rw [even, Nat.add_zero]
        omega
      · rw [odd]
        omega

theorem roundHalfEven_isEven {num den quotient : Nat} (positive : 0 < den)
    (isOther : quotient ≠ roundHalfEven num den)
    (asClose : ((quotient * den : Nat) - num : Int).natAbs =
      ((roundHalfEven num den * den : Nat) - num : Int).natAbs) :
    roundHalfEven num den % 2 = 0 := by
  have parts := Nat.div_add_mod' num den
  have rest := Nat.mod_lt num positive
  have next := Nat.succ_mul (num / den) den
  rw [Nat.succ_eq_add_one] at next
  have apart : quotient * den + den ≤ num / den * den ∨ quotient = num / den ∨
      quotient = num / den + 1 ∨ (num / den + 1) * den + den ≤ quotient * den := by
    rcases Nat.lt_or_ge quotient (num / den) with below | notBelow
    · have atMost := Nat.mul_le_mul_right den (Nat.succ_le_of_lt below)
      rw [Nat.succ_mul] at atMost
      exact .inl atMost
    · rcases Nat.lt_or_ge (num / den + 1) quotient with above | notAbove
      · have atLeast := Nat.mul_le_mul_right den (Nat.succ_le_of_lt above)
        rw [Nat.succ_mul] at atLeast
        exact .inr (.inr (.inr atLeast))
      · omega
  unfold roundHalfEven at isOther asClose ⊢
  dsimp only at isOther asClose ⊢
  split at asClose
  · rename_i isBelow
    rw [if_pos isBelow] at isOther
    rcases apart with below | same | rfl | above <;> omega
  · rename_i notBelow
    rw [if_neg notBelow] at isOther ⊢
    split at asClose
    · rename_i isAbove
      rw [if_pos isAbove] at isOther
      rcases apart with below | rfl | same | above <;> omega
    · rename_i notAbove
      rw [if_neg notAbove]
      omega

namespace Binary64

/-- The distance between neighbours in double precision, for numbers as large as this one. -/
def spacing (value : Nat) : Nat := Nat.pow 2 (value.log2 - 52)

theorem spacing_pos (value : Nat) : 0 < spacing value := Nat.pow_pos (by decide)

theorem spacing_dvd_pow {value power : Nat} (isLow : value.log2 ≤ power) :
    spacing value ∣ 2 ^ power :=
  Nat.pow_dvd_pow 2 (Nat.le_trans (Nat.sub_le _ _) isLow)

theorem log2_mono {low high : Nat} (notZero : low ≠ 0) (atMost : low ≤ high) :
    low.log2 ≤ high.log2 :=
  (Nat.le_log2 (by omega)).mpr (Nat.le_trans (Nat.log2_self_le notZero) atMost)

section

variable {num den : Nat}

theorem roundUnits_eq (num den : Nat) :
    roundUnits num den =
      roundHalfEven num (den * spacing (num / den)) * spacing (num / den) := rfl

theorem roundUnits_mul_right (num den : Nat) {scale : Nat} (positive : 0 < scale) :
    roundUnits (num * scale) (den * scale) = roundUnits num den := by
  rw [roundUnits_eq, roundUnits_eq, Nat.mul_div_mul_right _ _ positive, Nat.mul_right_comm,
    roundHalfEven_mul_right _ _ positive]

variable (positive : 0 < den)

include positive

theorem roundUnits_le_of_dvd {bound : Nat} (atMost : num ≤ bound * den)
    (divides : spacing (num / den) ∣ bound) : roundUnits num den ≤ bound := by
  obtain ⟨quotient, rfl⟩ := divides
  have product : spacing (num / den) * quotient * den = quotient * (den * spacing (num / den)) := by
    ac_rfl
  rw [product] at atMost
  have rounds := roundHalfEven_mono atMost (den * spacing (num / den))
  rw [roundHalfEven_mul_self quotient (Nat.mul_pos positive (spacing_pos _))] at rounds
  rw [roundUnits_eq, Nat.mul_comm (spacing _)]
  exact Nat.mul_le_mul_right _ rounds

theorem le_roundUnits_of_dvd {bound : Nat} (atLeast : bound * den ≤ num)
    (divides : spacing (num / den) ∣ bound) : bound ≤ roundUnits num den := by
  obtain ⟨quotient, rfl⟩ := divides
  have product : spacing (num / den) * quotient * den = quotient * (den * spacing (num / den)) := by
    ac_rfl
  rw [product] at atLeast
  have rounds := roundHalfEven_mono atLeast (den * spacing (num / den))
  rw [roundHalfEven_mul_self quotient (Nat.mul_pos positive (spacing_pos _))] at rounds
  rw [roundUnits_eq, Nat.mul_comm (spacing _)]
  exact Nat.mul_le_mul_right _ rounds

theorem roundUnits_mono {low high : Nat} (atMost : low ≤ high) :
    roundUnits low den ≤ roundUnits high den := by
  have quotients := Nat.div_le_div_right (c := den) atMost
  rcases Nat.lt_or_ge (low / den).log2 (high / den).log2 with below | notBelow
  · -- A power of two lies between the quotients, and rounding goes beyond none.
    have highNotZero : high / den ≠ 0 := by
      intro isZero
      rw [isZero] at below
      exact absurd below (Nat.not_lt_zero _)
    have lowBound : low ≤ 2 ^ (high / den).log2 * den := by
      have lowQuotient : low / den < 2 ^ (high / den).log2 :=
        Nat.lt_of_lt_of_le Nat.lt_log2_self (Nat.pow_le_pow_right (by decide) below)
      exact Nat.le_of_lt ((Nat.div_lt_iff_lt_mul positive).mp lowQuotient)
    have highBound : 2 ^ (high / den).log2 * den ≤ high :=
      (Nat.le_div_iff_mul_le positive).mp (Nat.log2_self_le highNotZero)
    exact Nat.le_trans
      (roundUnits_le_of_dvd positive lowBound (spacing_dvd_pow (Nat.le_of_lt below)))
      (le_roundUnits_of_dvd positive highBound (spacing_dvd_pow (Nat.le_refl _)))
  · have same : spacing (low / den) = spacing (high / den) := by
      by_cases isZero : low / den = 0
      · rw [isZero] at notBelow ⊢
        have logs : (high / den).log2 = 0 := Nat.le_zero.mp notBelow
        rw [spacing, spacing, logs]
        rfl
      · rw [spacing, spacing, Nat.le_antisymm (log2_mono isZero quotients) notBelow]
    rw [roundUnits_eq, roundUnits_eq, same]
    exact Nat.mul_le_mul_right _ (roundHalfEven_mono atMost _)

end

def roundedNat (value : Nat) : Nat := roundHalfEven value (spacing value) * spacing value

def rounded (value : Int) : Int :=
  if value < 0 then -(roundedNat value.natAbs : Int) else roundedNat value.natAbs

def IsShort (value : Int) : Prop :=
  ∃ significand power, significand ≤ 2 ^ 53 ∧ value.natAbs = significand * 2 ^ power

theorem roundedNat_eq_roundUnits (value : Nat) : roundedNat value = roundUnits value 1 := by
  rw [roundUnits_eq, Nat.div_one, Nat.one_mul, roundedNat]

theorem roundedNat_of_dvd {value : Nat} (divides : spacing value ∣ value) :
    roundedNat value = value := by
  obtain ⟨quotient, isProduct⟩ := divides
  have rounds := roundHalfEven_mul_self quotient (spacing_pos value)
  rw [Nat.mul_comm, ← isProduct] at rounds
  rw [roundedNat, rounds, Nat.mul_comm, ← isProduct]

theorem roundedNat_mono {low high : Nat} (atMost : low ≤ high) :
    roundedNat low ≤ roundedNat high := by
  rw [roundedNat_eq_roundUnits, roundedNat_eq_roundUnits]
  exact roundUnits_mono Nat.one_pos atMost

theorem rounded_mono {low high : Int} (atMost : low ≤ high) : rounded low ≤ rounded high := by
  unfold rounded
  split
  · rename_i lowNegative
    split
    · have magnitudes : roundedNat high.natAbs ≤ roundedNat low.natAbs := roundedNat_mono (by omega)
      omega
    · omega
  · rename_i lowNonnegative
    have highNonnegative : ¬high < 0 := by omega
    have magnitudes : roundedNat low.natAbs ≤ roundedNat high.natAbs := roundedNat_mono (by omega)
    rw [if_neg highNonnegative]
    omega

theorem compare_rounded {left right : Int} (apart : left = right ∨ rounded left ≠ rounded right) :
    compare (rounded left) (rounded right) = compare left right := by
  rcases Int.lt_trichotomy left right with below | rfl | above
  · have isApart := apart.resolve_left (Int.ne_of_lt below)
    have roundedBelow := lt_of_le_of_ne (rounded_mono (Int.le_of_lt below)) isApart
    rw [compare_lt_iff_lt.mpr below, compare_lt_iff_lt.mpr roundedBelow]
  · rw [compare_eq_iff_eq.mpr rfl, compare_eq_iff_eq.mpr rfl]
  · have isApart := apart.resolve_left (Int.ne_of_gt above)
    have roundedAbove := lt_of_le_of_ne (rounded_mono (Int.le_of_lt above)) isApart.symm
    rw [compare_gt_iff_gt.mpr above, compare_gt_iff_gt.mpr roundedAbove]

theorem spacing_dvd_of_short {value significand power : Nat} (isShort : significand ≤ 2 ^ 53)
    (isProduct : value = significand * 2 ^ power) : spacing value ∣ value := by
  by_cases isZero : value = 0
  · rw [isZero]
    exact Nat.dvd_zero _
  by_cases isLow : value.log2 - 52 ≤ power
  · rw [isProduct] at isLow ⊢
    exact Nat.dvd_mul_left_of_dvd (Nat.pow_dvd_pow 2 isLow) significand
  · -- Only a power of two is left, which the spacing divides.
    have upper : value ≤ 2 ^ (53 + power) := by
      rw [isProduct, Nat.pow_add]
      exact Nat.mul_le_mul_right _ isShort
    have between : 2 ^ (53 + power) ≤ 2 ^ value.log2 :=
      Nat.pow_le_pow_right (by decide) (by omega)
    have lower := Nat.log2_self_le isZero
    have isPower : 2 ^ value.log2 = value := by omega
    have divides := spacing_dvd_pow (Nat.le_refl value.log2)
    rwa [isPower] at divides

theorem rounded_of_isShort {value : Int} (isShort : IsShort value) : rounded value = value := by
  obtain ⟨significand, power, few, isProduct⟩ := isShort
  rw [rounded, roundedNat_of_dvd (spacing_dvd_of_short few isProduct)]
  split <;> omega

theorem roundHalfEven_spacing_le (num den : Nat) :
    roundHalfEven num (den * spacing (num / den)) ≤ 2 ^ 53 := by
  have quotient : num / den / spacing (num / den) < 2 ^ 53 := by
    rw [Nat.div_lt_iff_lt_mul (spacing_pos _), spacing, Nat.pow_eq, ← Nat.pow_add]
    exact Nat.lt_of_lt_of_le Nat.lt_log2_self (Nat.pow_le_pow_right (by decide) (by omega))
  rw [Nat.div_div_eq_div_mul] at quotient
  exact Nat.le_trans (roundHalfEven_le _ _) quotient

theorem isShort_roundUnits (num den : Nat) : IsShort (roundUnits num den) :=
  ⟨_, (num / den).log2 - 52, roundHalfEven_spacing_le num den, rfl⟩

theorem isShort_rounded (value : Int) : IsShort (rounded value) := by
  have isShort := isShort_roundUnits value.natAbs 1
  rw [← roundedNat_eq_roundUnits] at isShort
  obtain ⟨significand, power, few, isProduct⟩ := isShort
  refine ⟨significand, power, few, ?_⟩
  rw [← isProduct, rounded]
  split
  · exact Int.natAbs_neg _
  · rfl

theorem IsShort.dvd_or_lt {other : Nat} (isShort : IsShort other) (value : Nat) :
    spacing value ∣ other ∨ other < 2 ^ value.log2 ∧ 2 ^ value.log2 ≤ value := by
  by_cases isBelow : other < 2 ^ value.log2
  · by_cases isZero : value = 0
    · subst isZero
      exact .inl (by simp [spacing])
    · exact .inr ⟨isBelow, Nat.log2_self_le isZero⟩
  · obtain ⟨significand, power, few, isProduct⟩ := isShort
    have notZero : other ≠ 0 := by
      have positive : 0 < 2 ^ value.log2 := Nat.pow_pos (by decide)
      omega
    have logs : value.log2 ≤ other.log2 := (Nat.le_log2 notZero).mpr (Nat.le_of_not_lt isBelow)
    have divides := spacing_dvd_of_short few isProduct
    exact .inl (Nat.dvd_trans (Nat.pow_dvd_pow 2 (Nat.sub_le_sub_right logs 52)) divides)

section

variable {num den : Nat} (positive : 0 < den)

include positive

theorem roundUnits_closest_of_dvd {other : Nat} (divides : spacing (num / den) ∣ other) :
    ((roundUnits num den * den : Nat) - num : Int).natAbs ≤
      ((other * den : Nat) - num : Int).natAbs := by
  obtain ⟨quotient, rfl⟩ := divides
  have closest := roundHalfEven_isNearest num quotient
    (Nat.mul_pos positive (spacing_pos (num / den)))
  rw [roundUnits_eq, Nat.mul_assoc, Nat.mul_comm (spacing _) den, Nat.mul_comm (spacing _) quotient,
    Nat.mul_assoc, Nat.mul_comm (spacing _) den]
  exact closest

theorem roundUnits_closer_of_lt {other : Nat} (isBelow : other < 2 ^ (num / den).log2)
    (isReached : 2 ^ (num / den).log2 ≤ num / den) :
    ((roundUnits num den * den : Nat) - num : Int).natAbs <
      ((other * den : Nat) - num : Int).natAbs := by
  have closest := roundUnits_closest_of_dvd positive (spacing_dvd_pow (Nat.le_refl (num / den).log2))
  have power := (Nat.le_div_iff_mul_le positive).mp isReached
  have farther := Nat.mul_lt_mul_of_pos_right isBelow positive
  omega

theorem roundUnits_isClosest {other : Nat} (isShort : IsShort other) :
    ((roundUnits num den * den : Nat) - num : Int).natAbs ≤
      ((other * den : Nat) - num : Int).natAbs := by
  rcases isShort.dvd_or_lt (num / den) with divides | ⟨isBelow, isReached⟩
  · exact roundUnits_closest_of_dvd positive divides
  · exact Nat.le_of_lt (roundUnits_closer_of_lt positive isBelow isReached)

end

theorem roundedNat_isNearest (value other : Nat) (isShort : IsShort other) :
    (roundedNat value - value : Int).natAbs ≤ (other - value : Int).natAbs := by
  have closest : ((roundUnits value 1 * 1 : Nat) - value : Int).natAbs ≤
      ((other * 1 : Nat) - value : Int).natAbs := roundUnits_isClosest Nat.one_pos isShort
  rwa [← roundedNat_eq_roundUnits, Nat.mul_one, Nat.mul_one] at closest

/-- Of the whole numbers of at most 53 significant bits, none is closer to the value. -/
structure IsNearest (value near : Int) : Prop where
  isShort : IsShort near
  isClosest : ∀ other, IsShort other → (near - value).natAbs ≤ (other - value).natAbs

theorem isNearest_rounded (value : Int) : IsNearest value (rounded value) where
  isShort := isShort_rounded value
  isClosest := by
    intro other isShort
    have magnitudes := roundedNat_isNearest value.natAbs other.natAbs isShort
    have fromZero := roundedNat_isNearest value.natAbs 0 ⟨0, 0, by decide, rfl⟩
    rw [rounded]
    split <;> omega

/-- Whole numbers of at least this magnitude are out of the range of double precision: half a unit in
the last place below 2¹⁰²⁴. -/
def wholeLimit : Nat := Nat.pow 2 1024 - Nat.pow 2 970

def IsInRange (value : Int) : Prop := value.natAbs < wholeLimit

instance (value : Int) : Decidable (IsInRange value) :=
  inferInstanceAs (Decidable (value.natAbs < wholeLimit))

def mostUnits : Nat := (2 ^ 53 - 1) * 2 ^ 2045

theorem isShort_mostUnits : IsShort (mostUnits : Nat) := ⟨2 ^ 53 - 1, 2045, by decide, rfl⟩

theorem two_mul_wholeLimit : 2 * (wholeLimit * unitsPerOne) = mostUnits + unitsLimit := by decide +kernel

theorem mostUnits_lt : mostUnits < unitsLimit := by decide +kernel

theorem unitsLimit_le_roundUnits : unitsLimit ≤ roundUnits (wholeLimit * unitsPerOne) 1 := by
  decide +kernel

section

variable {num den : Nat} (positive : 0 < den)

include positive

theorem roundUnits_lt_of_lt (isSmall : num < wholeLimit * den) :
    roundUnits (num * unitsPerOne) den < unitsLimit := by
  by_contra notBelow
  have closest : ((roundUnits (num * unitsPerOne) den * den : Nat) -
      (num * unitsPerOne : Nat) : Int).natAbs ≤
        ((mostUnits * den : Nat) - (num * unitsPerOne : Nat) : Int).natAbs :=
    roundUnits_isClosest positive isShort_mostUnits
  have beyond := Nat.mul_le_mul_right den (Nat.le_of_not_lt notBelow)
  have most := Nat.mul_lt_mul_of_pos_right mostUnits_lt positive
  have below := Nat.mul_lt_mul_of_pos_right isSmall unitsPerOne_pos
  have middle : 2 * (wholeLimit * den * unitsPerOne) = mostUnits * den + unitsLimit * den := by
    rw [Nat.mul_right_comm, ← Nat.mul_assoc, two_mul_wholeLimit, Nat.add_mul]
  omega

theorem roundUnits_lt_iff :
    roundUnits (num * unitsPerOne) den < unitsLimit ↔ num < wholeLimit * den := by
  refine ⟨fun isBelow => ?_, roundUnits_lt_of_lt positive⟩
  by_contra notSmall
  have large := Nat.mul_le_mul_right unitsPerOne (Nat.le_of_not_lt notSmall)
  have rounds := roundUnits_mono positive large
  have reduced := roundUnits_mul_right (wholeLimit * unitsPerOne) 1 positive
  rw [Nat.one_mul, Nat.mul_right_comm] at reduced
  rw [reduced] at rounds
  exact Nat.not_lt.mpr (Nat.le_trans unitsLimit_le_roundUnits rounds) isBelow

theorem ofRatio_of_large (negative : Bool) (isLarge : wholeLimit * den ≤ num) :
    ofRatio negative num den = .infinite negative := by
  have notInRange : ¬roundUnits (num * unitsPerOne) den < unitsLimit := by
    rw [roundUnits_lt_iff positive]
    exact Nat.not_lt.mpr isLarge
  rw [ofRatio, ofUnits, dif_neg notInRange]

end

theorem log2_mul_pow {value : Nat} (notZero : value ≠ 0) (bits : Nat) :
    (value * Nat.pow 2 bits).log2 = value.log2 + bits := by
  have positive : 0 < Nat.pow 2 bits := Nat.pow_pos (by decide)
  have productNotZero : value * Nat.pow 2 bits ≠ 0 := Nat.mul_ne_zero notZero positive.ne'
  rw [Nat.log2_eq_iff productNotZero, Nat.add_right_comm, Nat.pow_add, Nat.pow_add]
  exact ⟨Nat.mul_le_mul_right _ (Nat.log2_self_le notZero),
    Nat.mul_lt_mul_of_pos_right Nat.lt_log2_self positive⟩

theorem roundUnits_whole (value bits : Nat) :
    roundUnits (value * Nat.pow 2 bits) 1 = roundedNat value * Nat.pow 2 bits := by
  rw [← roundedNat_eq_roundUnits]
  by_cases isZero : value = 0
  · subst isZero
    rw [Nat.zero_mul, roundedNat_of_dvd (Nat.dvd_zero _), Nat.zero_mul]
  by_cases isSmall : value.log2 < 52
  · have one : spacing value = 1 := by
      rw [spacing, Nat.sub_eq_zero_of_le isSmall.le]
    have divides : spacing (value * Nat.pow 2 bits) ∣ value * Nat.pow 2 bits := by
      refine Nat.dvd_mul_left_of_dvd (Nat.pow_dvd_pow 2 ?_) value
      rw [log2_mul_pow isZero]
      exact Nat.sub_le_of_le_add (by omega)
    rw [roundedNat_of_dvd divides, roundedNat_of_dvd (one ▸ Nat.one_dvd value)]
  · have scaled : spacing (value * Nat.pow 2 bits) = spacing value * Nat.pow 2 bits := by
      have exponents : value.log2 + bits - 52 = value.log2 - 52 + bits := by omega
      rw [spacing, spacing, log2_mul_pow isZero, exponents]
      exact Nat.pow_add 2 _ _
    have positive : 0 < Nat.pow 2 bits := Nat.pow_pos (by decide)
    rw [roundedNat, roundedNat, scaled, roundHalfEven_mul_right _ _ positive, Nat.mul_assoc]

theorem ofRatio_whole (negative : Bool) {value : Nat} (isInRange : value < wholeLimit) :
    ∃ inRange, ofRatio negative value 1 =
      .finite negative (roundedNat value * unitsPerOne) inRange := by
  have units : roundUnits (value * unitsPerOne) 1 = roundedNat value * unitsPerOne :=
    roundUnits_whole value 1074
  have below : roundedNat value * unitsPerOne < unitsLimit := by
    rw [← units, roundUnits_lt_iff Nat.one_pos, Nat.mul_one]
    exact isInRange
  refine ⟨below, ?_⟩
  simp only [ofRatio, ofUnits, units, dif_pos below]

theorem ofInt?_of_not_inRange {value : Int} (notInRange : ¬IsInRange value) : ofInt? value = none := by
  have isLarge : wholeLimit * 1 ≤ value.natAbs := by
    rw [Nat.mul_one]
    exact Nat.le_of_not_lt notInRange
  rw [ofInt?, ofRatio_of_large Nat.one_pos _ isLarge]
  rfl

def IsWhole (number : Binary64) (whole : Int) : Prop := number.toUnits? = some (whole * unitsPerOne)

theorem isWhole_ofRatio {value : Int} (isInRange : IsInRange value) :
    (ofRatio (value < 0) value.natAbs 1).IsWhole (rounded value) := by
  obtain ⟨inRange, isFinite⟩ := ofRatio_whole (value < 0) isInRange
  rw [IsWhole, isFinite, toUnits?, rounded]
  by_cases isNegative : value < 0
  · rw [if_pos (decide_eq_true isNegative), if_pos isNegative, Int.natCast_mul, Int.neg_mul]
  · rw [if_neg (by simp [isNegative]), if_neg isNegative, Int.natCast_mul]

theorem exists_ofInt? {value : Int} (isInRange : IsInRange value) :
    ∃ number, ofInt? value = some number ∧ number.IsWhole (rounded value) := by
  have isWhole := isWhole_ofRatio isInRange
  obtain ⟨inRange, isFinite⟩ := ofRatio_whole (value < 0) isInRange
  rw [isFinite] at isWhole
  refine ⟨_, ?_, isWhole⟩
  rw [ofInt?, isFinite]
  rfl

theorem compare?_of_toUnits? {left right : Binary64} {leftUnits rightUnits : Int}
    (leftIs : left.toUnits? = some leftUnits) (rightIs : right.toUnits? = some rightUnits) :
    compare? left right = some (compare leftUnits rightUnits) := by
  cases left with
  | infinite _ => cases leftIs
  | nan => cases leftIs
  | finite leftSign leftMagnitude leftRange =>
      cases right with
      | infinite _ => cases rightIs
      | nan => cases rightIs
      | finite rightSign rightMagnitude rightRange =>
          cases leftIs
          cases rightIs
          rfl

theorem compare?_of_isWhole {left right : Binary64} {leftWhole rightWhole : Int}
    (leftIs : left.IsWhole leftWhole) (rightIs : right.IsWhole rightWhole) :
    compare? left right = some (compare leftWhole rightWhole) := by
  have positive : (0 : Int) < unitsPerOne := Int.natCast_pos.mpr unitsPerOne_pos
  rw [compare?_of_toUnits? leftIs rightIs, ← cmp_eq_compare, ← cmp_eq_compare,
    cmp_mul_pos_right positive]

end Binary64

end ConversionTracking
