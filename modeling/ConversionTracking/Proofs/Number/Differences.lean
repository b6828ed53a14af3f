import ConversionTracking.Proofs.Number.Order

/-!
Differences of double-precision numbers. Taken the other way around, a difference has the opposite sign,
and so has what it is rounded to. Numbers that are nearest to different hundredths are more than half a
hundredth apart, whatever their magnitude, so that no difference between them is lost when it is rounded
to hundredths.
-/

namespace ConversionTracking

theorem roundHalfEven_near (num : Nat) {den : Nat} (positive : 0 < den) :
    2 * (roundHalfEven num den * den) ≤ 2 * num + den ∧
      2 * num ≤ 2 * (roundHalfEven num den * den) + den := by
  have parts := Nat.div_add_mod' num den
  have rest := Nat.mod_lt num positive
  have next := Nat.succ_mul (num / den) den
  rw [Nat.succ_eq_add_one] at next
  unfold roundHalfEven
  dsimp only
  split
  · omega
  · split
    · omega
    · rcases Nat.mod_two_eq_zero_or_one (num / den) with even | odd
      · rw [even, Nat.add_zero]
        omega
      · rw [odd]
        omega

namespace Binary64

section

variable {num den : Nat} (positive : 0 < den) (bits : Nat)

include positive

theorem roundUnits_near (small : num < 2 ^ (bits + 54) * den) :
    roundUnits num den * den ≤ num + 2 ^ bits * den ∧
      num ≤ roundUnits num den * den + 2 ^ bits * den := by
  have logs : (num / den).log2 - 52 ≤ bits + 1 := by
    have quotient : num / den < 2 ^ (bits + 54) := (Nat.div_lt_iff_lt_mul positive).mpr small
    by_cases isZero : num / den = 0
    · rw [isZero]
      exact Nat.zero_le _
    · have below := (Nat.log2_lt isZero).mpr quotient
      omega
  have width : den * spacing (num / den) ≤ 2 * (2 ^ bits * den) := by
    have powers : spacing (num / den) ≤ 2 ^ (bits + 1) := Nat.pow_le_pow_right (by decide) logs
    rw [Nat.pow_succ] at powers
    calc den * spacing (num / den) ≤ den * (2 ^ bits * 2) := Nat.mul_le_mul_left den powers
      _ = 2 * (2 ^ bits * den) := by rw [← Nat.mul_assoc, Nat.mul_comm _ 2, Nat.mul_comm den]
  have near := roundHalfEven_near num (Nat.mul_pos positive (spacing_pos (num / den)))
  rw [roundUnits_eq, Nat.mul_assoc, Nat.mul_comm (spacing _) den]
  omega

theorem dvd_roundUnits (large : 2 ^ (bits + 54) * den ≤ num) :
    2 ^ (bits + 2) ∣ roundUnits num den := by
  have quotient : 2 ^ (bits + 54) ≤ num / den := (Nat.le_div_iff_mul_le positive).mpr large
  have notZero : num / den ≠ 0 := by
    have power : 0 < 2 ^ (bits + 54) := Nat.pow_pos (by decide)
    omega
  have logs := (Nat.le_log2 notZero).mpr quotient
  rw [roundUnits_eq]
  exact Nat.dvd_mul_left_of_dvd (Nat.pow_dvd_pow 2 (by omega)) _

theorem le_roundUnits_of_pow (large : 2 ^ bits * den ≤ num) : 2 ^ bits ≤ roundUnits num den := by
  have exact_power : 2 ^ bits ≤ roundUnits (2 ^ bits * den) den := by
    refine le_roundUnits_of_dvd positive (Nat.le_refl _) ?_
    rw [Nat.mul_div_cancel _ positive]
    exact spacing_dvd_pow (by rw [Nat.log2_two_pow])
  exact Nat.le_trans exact_power (roundUnits_mono positive large)

end

theorem roundUnits_apart (bits : Nat) {first second : Nat}
    (below : roundUnits (first * 2 ^ (bits + 9)) 100 < roundUnits (second * 2 ^ (bits + 9)) 100) :
    3 * 2 ^ (bits + 9) ≤ 512 * (roundUnits (second * 2 ^ (bits + 9)) 100 -
      roundUnits (first * 2 ^ (bits + 9)) 100) := by
  have positive : 0 < 100 := by decide
  have unit : 2 ^ (bits + 9) = 512 * 2 ^ bits := by
    rw [Nat.pow_add, Nat.mul_comm]
  have bound : 2 ^ (bits + 54) = 2 ^ 45 * 2 ^ (bits + 9) := by
    rw [← Nat.pow_add]
    congr 1
    omega
  have next : (first + 1) * 2 ^ (bits + 9) ≤ second * 2 ^ (bits + 9) := by
    refine Nat.mul_le_mul_right _ (Nat.lt_of_not_le fun notBelow => ?_)
    have rounds := roundUnits_mono positive (Nat.mul_le_mul_right (2 ^ (bits + 9)) notBelow)
    omega
  rw [Nat.succ_mul] at next
  by_cases firstSmall : first * 2 ^ (bits + 9) < 2 ^ (bits + 54) * 100
  · have firstNear := roundUnits_near positive bits firstSmall
    by_cases secondSmall : second * 2 ^ (bits + 9) < 2 ^ (bits + 54) * 100
    · -- A hundredth is 5.12 times as much as each of them moves at most.
      have secondNear := roundUnits_near positive bits secondSmall
      omega
    · -- The bound is a whole number of hundredths, and the first number is below it.
      have secondLarge := le_roundUnits_of_pow positive (bits + 54) (Nat.le_of_not_lt secondSmall)
      have firstNext : (first + 1) * 2 ^ (bits + 9) ≤ 2 ^ (bits + 54) * 100 := by
        rw [bound, Nat.mul_right_comm] at firstSmall ⊢
        exact Nat.mul_le_mul_right _ (Nat.lt_of_mul_lt_mul_right firstSmall)
      rw [Nat.succ_mul] at firstNext
      omega
  · -- Both are multiples of four times as much.
    have firstLarge := Nat.le_of_not_lt firstSmall
    have firstMultiple := dvd_roundUnits positive bits firstLarge
    have secondLarge := Nat.le_trans firstLarge (Nat.le_trans (Nat.le_add_right _ _) next)
    have secondMultiple := dvd_roundUnits positive bits secondLarge
    have apart := Nat.le_of_dvd (Nat.sub_pos_of_lt below) (Nat.dvd_sub secondMultiple firstMultiple)
    rw [Nat.pow_add] at apart
    omega

theorem unitsPerOne_eq : unitsPerOne = 2 ^ (1065 + 9) := by decide +kernel

inductive IsHundredths : Binary64 → Prop where
  | finite (hundredths : Nat) (inRange : roundUnits (hundredths * unitsPerOne) 100 < unitsLimit) :
      IsHundredths (.finite false (roundUnits (hundredths * unitsPerOne) 100) inRange)
  | infinite : IsHundredths (.infinite false)

theorem isHundredths_ofRatio (hundredths : Nat) : IsHundredths (ofRatio false hundredths 100) := by
  rw [ofRatio, ofUnits]
  split
  · exact .finite hundredths _
  · exact .infinite

inductive IsUnsigned : Binary64 → Prop where
  | finite (units : Nat) (inRange : units < unitsLimit) : IsUnsigned (.finite false units inRange)
  | infinite : IsUnsigned (.infinite false)

theorem isUnsigned_ofUnits (num den : Nat) : IsUnsigned (ofUnits false num den) := by
  rw [ofUnits]
  split
  · exact .finite _ _
  · exact .infinite

theorem IsUnsigned.mul {number : Binary64} (unsigned : IsUnsigned number) {factor : Nat}
    (positive : 0 < factor) (inRange : factor < unitsLimit) :
    IsUnsigned (number.mul (.finite false factor inRange)) := by
  cases unsigned with
  | finite units _ => exact isUnsigned_ofUnits (units * factor) unitsPerOne
  | infinite =>
      simp only [Binary64.mul, if_neg positive.ne']
      exact .infinite

theorem IsUnsigned.isHundredths_roundPlaces {number : Binary64} (unsigned : IsUnsigned number) :
    IsHundredths (number.roundPlaces 2) := by
  cases unsigned with
  | finite units _ => exact isHundredths_ofRatio _
  | infinite => exact .infinite

theorem place?_sub_of_lt {left right : Nat} (leftInRange : left < unitsLimit)
    (rightInRange : right < unitsLimit) (below : right < left) :
    (sub (.finite false left leftInRange) (.finite false right rightInRange)).place? =
      some (nearestUnits (left - right) 1 : Int) := by
  have difference : signed false left + signed true right = signed false (left - right) := by
    simp only [signed, if_true, if_false, Bool.false_eq_true]
    omega
  have moved := (keepsOrder_add false leftInRange).finite true right rightInRange
  rw [difference, onMagnitude_signed (nearestUnits_zero 1)] at moved
  exact moved

theorem zero_less_roundPlaces_sub {left right : Binary64} (leftHundredths : IsHundredths left)
    (rightHundredths : IsHundredths right) (isLess : right.less left = true) :
    zero.less ((left.sub right).roundPlaces 2) = true := by
  cases rightHundredths with
  | infinite => cases leftHundredths <;> contradiction
  | finite rightCount rightInRange =>
      cases leftHundredths with
      | infinite => rfl
      | finite leftCount leftInRange =>
          have below := Int.ofNat_lt.mp ((less_iff_of_place? rfl rfl).mp isLess)
          have apart : (ofRatio false 3 512).lessOrEqual
              (sub (.finite false _ leftInRange) (.finite false _ rightInRange)) = true := by
            refine (lessOrEqual_iff_of_place? (place?_ofUnits _ _ _)
              (place?_sub_of_lt leftInRange rightInRange below)).mpr (Int.ofNat_le.mpr ?_)
            refine nearestUnits_le (by decide) Nat.one_pos ?_
            rw [unitsPerOne_eq] at below ⊢
            have far := roundUnits_apart 1065 below
            rw [Nat.mul_one, Nat.mul_comm _ 512]
            exact far
          -- Three 512ths are rounded to a hundredth, and more than that to no less.
          have rounded : zero.less ((ofRatio false 3 512).roundPlaces 2) = true := by decide +kernel
          exact less_of_less_of_lessOrEqual rounded ((keepsOrder_roundPlaces 2).lessOrEqual apart)

theorem IsHundredths.ne_nan {number : Binary64} (hundredths : IsHundredths number) :
    number ≠ .nan := by
  cases hundredths <;> exact ne_nan_of_place? rfl

theorem IsHundredths.eq_of_equals {left right : Binary64} (leftHundredths : IsHundredths left)
    (rightHundredths : IsHundredths right) (areEqual : left.equals right = true) : left = right := by
  cases leftHundredths with
  | infinite =>
      cases rightHundredths with
      | infinite => rfl
      | finite => contradiction
  | finite leftCount leftInRange =>
      cases rightHundredths with
      | infinite => contradiction
      | finite rightCount rightInRange =>
          rw [equals_of_compare? (compare?_of_place? rfl rfl), Ordering.isEq_iff_eq_eq,
            compare_eq_iff_eq] at areEqual
          simp only [Int.ofNat_inj.mp areEqual]

def AreOpposite (left right : Binary64) : Prop :=
  right = left.negate ∨ left.isZero = true ∧ right.isZero = true

theorem isZero_roundPlaces {number : Binary64} (places : Nat) (isZero : number.isZero = true) :
    (number.roundPlaces places).isZero = true := by
  cases number with
  | nan => contradiction
  | infinite negative => contradiction
  | finite negative units inRange =>
      obtain rfl := beq_iff_eq.mp isZero
      rw [isZero_iff_place?, (keepsOrder_roundPlaces places).finite,
        onMagnitude_signed (decimalUnits_zero places), decimalUnits_zero]
      cases negative <;> rfl

theorem negate_ofUnits (negative : Bool) (num den : Nat) :
    (ofUnits negative num den).negate = ofUnits (!negative) num den := by
  rw [ofUnits, ofUnits]
  split <;> rfl

theorem sub_finite (leftSign rightSign : Bool) {left right : Nat} (leftInRange : left < unitsLimit)
    (rightInRange : right < unitsLimit) :
    sub (.finite leftSign left leftInRange) (.finite rightSign right rightInRange) =
      if signed leftSign left - signed rightSign right = 0 then signedZero (leftSign && !rightSign)
      else ofUnits (signed leftSign left - signed rightSign right < 0)
        (signed leftSign left - signed rightSign right).natAbs 1 := by
  rw [Int.sub_eq_add_neg, ← signed_not]
  rfl

theorem areOpposite_sub (left right : Binary64) : AreOpposite (left.sub right) (right.sub left) := by
  cases left with
  | nan => cases right <;> exact .inl rfl
  | infinite leftSign =>
      cases right with
      | nan => exact .inl rfl
      | infinite rightSign => cases leftSign <;> cases rightSign <;> exact .inl rfl
      | finite rightSign _ _ => exact .inl rfl
  | finite leftSign left leftInRange =>
      cases right with
      | nan => exact .inl rfl
      | infinite rightSign => cases rightSign <;> exact .inl rfl
      | finite rightSign right rightInRange =>
          have turned := Int.neg_sub (signed leftSign left) (signed rightSign right)
          rw [sub_finite, sub_finite, ← turned]
          generalize signed leftSign left - signed rightSign right = difference
          by_cases isZero : difference = 0
          · -- The sign of an exact zero does not tell which way around it is taken.
            rw [if_pos isZero, if_pos (by omega)]
            exact .inr ⟨rfl, rfl⟩
          · have sign : decide (-difference < 0) = !decide (difference < 0) := by
              rw [← decide_not, decide_eq_decide]
              omega
            rw [if_neg isZero, if_neg (by omega), sign, Int.natAbs_neg]
            exact .inl (negate_ofUnits _ _ _).symm

namespace AreOpposite

variable {left right : Binary64} (opposite : AreOpposite left right)

include opposite

theorem roundPlaces (places : Nat) :
    AreOpposite (left.roundPlaces places) (right.roundPlaces places) := by
  rcases opposite with rfl | ⟨leftIsZero, rightIsZero⟩
  · cases left with
    | finite negative units inRange => exact .inl (negate_ofUnits _ _ _).symm
    | infinite negative => exact .inl rfl
    | nan => exact .inl rfl
  · exact .inr ⟨isZero_roundPlaces places leftIsZero, isZero_roundPlaces places rightIsZero⟩

theorem place? {place : Int} (isPlace : left.place? = some place) :
    right.place? = some (-place) := by
  rcases opposite with rfl | ⟨leftIsZero, rightIsZero⟩
  · exact place?_negate isPlace
  · obtain rfl := Option.some.inj ((isZero_iff_place?.mp leftIsZero).symm.trans isPlace)
    exact isZero_iff_place?.mp rightIsZero

theorem zero_less : zero.less left = right.less zero := by
  by_cases isNaN : left = .nan
  · subst isNaN
    rcases opposite with rfl | ⟨leftIsZero, _⟩
    · rfl
    · contradiction
  · obtain ⟨place, isPlace⟩ := exists_place? isNaN
    have atZero : zero.place? = some 0 := rfl
    rw [Bool.eq_iff_iff, less_iff_of_place? atZero isPlace,
      less_iff_of_place? (opposite.place? isPlace) atZero]
    omega

theorem symm : AreOpposite right left := by
  rcases opposite with rfl | ⟨leftIsZero, rightIsZero⟩
  · cases left <;> simp [AreOpposite, negate]
  · exact .inr ⟨rightIsZero, leftIsZero⟩

end AreOpposite

theorem AreOpposite.level {number : Binary64} (opposite : AreOpposite number number) :
    zero.less number = false ∧ number.less zero = false := by
  have same := opposite.zero_less
  cases above : zero.less number with
  | false => exact ⟨rfl, same.symm.trans above⟩
  | true => exact absurd (same.symm.trans above) (Bool.eq_false_iff.mp (less_asymm above))

end Binary64

end ConversionTracking
