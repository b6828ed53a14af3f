import ConversionTracking.Calendar.IsoText
import ConversionTracking.Proofs.Calendar.Civil

/-!
Weeks of a year. Each starts on a Monday, the first of them holds the fourth of January, and there are
52 or 53 up to the first week of the next year. The parts of a week date are read as the date that
lies there.
-/

namespace ConversionTracking

namespace Calendar

theorem firstOfYear_succ (year : Nat) :
    firstOfYear (year + 1) = firstOfYear year + if isLeapYear year then 366 else 365 := by
  cases year with
  | zero => rfl
  | succ before =>
      rw [firstOfYear, firstOfYear, if_neg (Nat.succ_ne_zero _), if_neg (Nat.succ_ne_zero _),
        dayNumber, dayNumber, daysBeforeYear_succ (Nat.succ_pos before)]
      cases isLeapYear (before + 1) <;> simp [daysBeforeMonth] <;> omega

theorem firstMonday_spec (year : Nat) :
    weekday (firstMonday year) = 0 ∧ firstMonday year ≤ firstOfYear year + 3 ∧
      firstOfYear year + 3 < firstMonday year + 7 := by
  unfold firstMonday weekday
  dsimp only
  split <;> omega

theorem firstMonday_succ (year : Nat) :
    firstMonday (year + 1) = firstMonday year + if hasLongWeekYear year then 53 * 7 else 52 * 7 := by
  have next := firstOfYear_succ year
  have here := firstMonday_spec year
  have after := firstMonday_spec (year + 1)
  unfold hasLongWeekYear
  unfold weekday at here after ⊢
  cases isLeap : isLeapYear year <;> simp [isLeap] at next ⊢ <;> split <;> omega

end Calendar

open Calendar

structure Date.IsWeekDay (date : Date) (year week day : Nat) : Prop where
  isWeek : 1 ≤ week
  isDay : 1 ≤ day ∧ day ≤ 7
  number : (date.number : Int) = firstMonday year + (week - 1) * 7 + (day - 1)
  inYear : (date.number : Int) < firstMonday (year + 1)

namespace IsoText

theorem civilOfNumber_eq_civil_iff (number : Int) (date : Date) :
    civilOfNumber number = date.civil ↔ (date.number : Int) = number := by
  have isDay := date.one_le_number
  rw [civilOfNumber]
  split
  · refine iff_of_false (fun same => ?_) (by omega)
    have sameMonth := congrArg CivilDate.month same
    have isMonth := date.month_bounds.1
    rw [← show (0 : Nat) = date.month from sameMonth] at isMonth
    contradiction
  · obtain ⟨day, rfl⟩ := Int.eq_ofNat_of_zero_le (show 0 ≤ number by omega)
    rw [Int.toNat_natCast, Int.natCast_inj]
    constructor
    · intro same
      obtain ⟨isYear, isMonth, isDay⟩ := CivilDate.mk.inj same
      have whole := dayNumber_parts (show 1 ≤ day by omega) rfl rfl rfl
      rw [isDay, isMonth, isYear, ← date.number_eq] at whole
      exact whole
    · rintro rfl
      rfl

theorem ofWeek?_eq_civil_iff (year week day : Nat) (date : Date) :
    ofWeek? year week day = some date.civil ↔ date.IsWeekDay year week day := by
  have last := firstMonday_succ year
  rw [ofWeek?]
  split
  · rename_i noWeekDay
    refine iff_of_false (by simp) fun isDay => ?_
    obtain ⟨isWeek, ⟨firstDay, lastDay⟩, number, inYear⟩ := isDay
    cases hasLong : hasLongWeekYear year <;> simp [hasLong] at last noWeekDay <;> omega
  · rename_i isWeekDay
    rw [Option.some.injEq, civilOfNumber_eq_civil_iff]
    constructor
    · intro number
      refine ⟨by omega, by omega, by omega, ?_⟩
      cases hasLong : hasLongWeekYear year <;> simp [hasLong] at last isWeekDay <;> omega
    · intro isDay
      have number := isDay.number
      omega

end IsoText

end ConversionTracking
