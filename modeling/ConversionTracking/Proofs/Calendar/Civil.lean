import ConversionTracking.Calendar.Civil
import Mathlib.Data.Nat.Init
import Mathlib.Order.Monotone.Basic
import Mathlib.Tactic.Common

/-!
Years, months and days of a date. The number of a date lies among those of exactly one month, and the
year, the month and the day of the month name no other date.
-/

namespace ConversionTracking

namespace Calendar

theorem eq_of_between {starts : Nat → Nat} (ordered : Monotone starts) {first second number : Nat}
    (inFirst : starts first < number ∧ number ≤ starts (first + 1))
    (inSecond : starts second < number ∧ number ≤ starts (second + 1)) : first = second := by
  rcases Nat.lt_trichotomy first second with isBefore | same | isAfter
  · have starts := ordered (show first + 1 ≤ second from isBefore)
    omega
  · exact same
  · have starts := ordered (show second + 1 ≤ first from isAfter)
    omega

theorem isLeapYear_iff (year : Nat) :
    isLeapYear year = true ↔ 4 ∣ year ∧ (100 ∣ year → 400 ∣ year) := by
  rw [isLeapYear, Bool.and_eq_true, Bool.or_eq_true, decide_eq_true_eq, decide_eq_true_eq,
    decide_eq_true_eq, Nat.dvd_iff_mod_eq_zero, Nat.dvd_iff_mod_eq_zero, Nat.dvd_iff_mod_eq_zero,
    imp_iff_not_or]

theorem daysBeforeYear_succ {year : Nat} (positive : 1 ≤ year) :
    daysBeforeYear (year + 1) = daysBeforeYear year + daysBeforeMonth (isLeapYear year) 13 := by
  obtain ⟨before, rfl⟩ := Nat.exists_eq_add_of_le' positive
  have fewer : before / 100 ≤ before / 4 := Nat.div_le_div_left (by decide) (by decide)
  have ofHundred : 100 ∣ before + 1 → 4 ∣ before + 1 := Nat.dvd_trans (by decide)
  have ofFourHundred : 400 ∣ before + 1 → 100 ∣ before + 1 := Nat.dvd_trans (by decide)
  have isLeap := isLeapYear_iff (before + 1)
  simp only [daysBeforeYear, daysBeforeMonth, Nat.add_sub_cancel, Nat.succ_div, isLeap]
  -- Only whether the year counts among the quotients matters, not what they are.
  generalize before / 4 = fours, before / 100 = hundreds, before / 400 = fourHundreds at *
  by_cases byFour : 4 ∣ before + 1
  · by_cases byHundred : 100 ∣ before + 1
    · by_cases byFourHundred : 400 ∣ before + 1 <;>
        simp only [byFour, byHundred, byFourHundred, if_true, if_false, true_and, forall_const] <;>
        omega
    · simp only [byFour, byHundred, mt ofFourHundred byHundred, if_true, if_false, true_and,
        false_imp_iff]
      omega
  · simp only [byFour, mt ofHundred byFour, mt ofFourHundred (mt ofHundred byFour), if_false,
      false_and]
    omega

theorem daysBeforeYear_mono : Monotone daysBeforeYear := by
  refine monotone_nat_of_le_succ fun year => ?_
  cases year with
  | zero => decide
  | succ year =>
      rw [daysBeforeYear_succ (Nat.succ_pos year)]
      exact Nat.le_add_right _ _

theorem daysBeforeYear_near_mean (years : Nat) :
    146097 * years ≤ 400 * daysBeforeYear (years + 1) + 699 ∧
      400 * daysBeforeYear (years + 1) ≤ 146097 * years + 396 := by
  simp only [daysBeforeYear, Nat.add_sub_cancel]
  omega

theorem yearOfDay_spec {number : Nat} (positive : 1 ≤ number) :
    daysBeforeYear (yearOfDay number) < number ∧
      number ≤ daysBeforeYear (yearOfDay number + 1) := by
  unfold yearOfDay
  have lower := Nat.div_mul_le_self ((number - 1) * 400) 146097
  have upper := Nat.lt_div_mul_add (a := (number - 1) * 400) (show 0 < 146097 by decide)
  generalize (number - 1) * 400 / 146097 = years at lower upper ⊢
  dsimp only
  split
  · rename_i isEarlier
    cases years with
    | zero => exact absurd positive (Nat.not_le_of_lt (Nat.lt_succ_of_le isEarlier))
    | succ years =>
        have near := daysBeforeYear_near_mean years
        rw [Nat.add_sub_cancel]
        omega
  · split
    · have near := daysBeforeYear_near_mean (years + 1 + 1)
      omega
    · omega

theorem daysBeforeMonth_mono (leap : Bool) : Monotone (daysBeforeMonth leap) := by
  have inYear : ∀ leap, ∀ month < 13,
      daysBeforeMonth leap month ≤ daysBeforeMonth leap (month + 1) := by
    decide
  refine monotone_nat_of_le_succ fun month => ?_
  by_cases isMonth : month < 13
  · exact inYear leap month isMonth
  · obtain ⟨later, rfl⟩ := Nat.exists_eq_add_of_le' (Nat.le_of_not_lt isMonth)
    exact Nat.le_refl _

theorem daysBeforeMonth_succ (leap : Bool) (month : Nat) :
    daysBeforeMonth leap (month + 1) = daysBeforeMonth leap month + daysInMonth leap month :=
  (Nat.add_sub_cancel' (daysBeforeMonth_mono leap (Nat.le_succ month))).symm

theorem daysInMonth_bounds (leap : Bool) {month : Nat} (isMonth : 1 ≤ month ∧ month ≤ 12) :
    28 ≤ daysInMonth leap month ∧ daysInMonth leap month ≤ 31 := by
  have bounds : ∀ leap, ∀ month < 13, 1 ≤ month →
      28 ≤ daysInMonth leap month ∧ daysInMonth leap month ≤ 31 := by
    decide
  exact bounds leap month (Nat.lt_succ_of_le isMonth.2) isMonth.1

theorem monthOfYearDay_spec {leap : Bool} {yearDay : Nat} (positive : 1 ≤ yearDay)
    (inYear : yearDay ≤ daysBeforeMonth leap 13) :
    (1 ≤ monthOfYearDay leap yearDay ∧ monthOfYearDay leap yearDay ≤ 12) ∧
      daysBeforeMonth leap (monthOfYearDay leap yearDay) < yearDay ∧
      yearDay ≤ daysBeforeMonth leap (monthOfYearDay leap yearDay + 1) := by
  unfold monthOfYearDay
  cases found : (List.range' 2 11).find? fun next => yearDay ≤ daysBeforeMonth leap next with
  | none =>
      have notBefore := List.find?_eq_none.mp found 12 (by decide)
      rw [decide_eq_true_eq] at notBefore
      exact ⟨⟨by decide, by decide⟩, Nat.lt_of_not_le notBefore, inYear⟩
  | some next =>
      obtain ⟨isLater, member, notBefore⟩ := List.find?_range'_eq_some.mp found
      simp only [List.mem_range'_1, Bool.not_eq_true', decide_eq_true_eq,
        decide_eq_false_iff_not] at isLater member notBefore
      obtain ⟨month, rfl⟩ : ∃ month, next = month + 2 := ⟨next - 2, by omega⟩
      rw [Option.elim_some, Nat.add_succ_sub_one]
      refine ⟨by omega, ?_, isLater⟩
      cases month with
      | zero => exact positive
      | succ month => exact Nat.lt_of_not_le (notBefore (month + 2) (by omega) (by omega))

theorem dayNumber_next_month (year month : Nat) :
    dayNumber year (month + 1) 0 =
      dayNumber year month 0 + daysInMonth (isLeapYear year) month := by
  simp only [dayNumber, daysBeforeMonth_succ]
  omega

theorem dayNumber_next_year {year : Nat} (positive : 1 ≤ year) :
    dayNumber (year + 1) 1 0 = dayNumber year 13 0 := by
  rw [dayNumber, daysBeforeYear_succ positive]
  rfl

theorem dayNumber_add_day (year month day : Nat) :
    dayNumber year month day = dayNumber year month 0 + day := rfl

theorem one_le_yearOfDay {number : Nat} (positive : 1 ≤ number) : 1 ≤ yearOfDay number := by
  have isBefore := (yearOfDay_spec positive).2
  by_contra isZero
  have same : yearOfDay number = 0 := by omega
  rw [same] at isBefore
  exact absurd (Nat.le_trans positive isBefore) (by decide)

theorem dayOfYear_bounds {number : Nat} (positive : 1 ≤ number) :
    1 ≤ number - daysBeforeYear (yearOfDay number) ∧
      number - daysBeforeYear (yearOfDay number) ≤
        daysBeforeMonth (isLeapYear (yearOfDay number)) 13 := by
  have spec := yearOfDay_spec positive
  rw [daysBeforeYear_succ (one_le_yearOfDay positive)] at spec
  omega

theorem dayNumber_parts {number : Nat} (positive : 1 ≤ number) {year yearDay month : Nat}
    (isYear : yearOfDay number = year) (isYearDay : number - daysBeforeYear year = yearDay)
    (isMonth : monthOfYearDay (isLeapYear year) yearDay = month) :
    dayNumber year month (yearDay - daysBeforeMonth (isLeapYear year) month) = number := by
  subst isYear isYearDay isMonth
  have inYear := (yearOfDay_spec positive).1
  have bounds := dayOfYear_bounds positive
  have inMonth := (monthOfYearDay_spec bounds.1 bounds.2).2.1
  rw [dayNumber]
  omega

end Calendar

open Calendar

namespace Date

theorem eq_of_number {left right : Date} (same : left.number = right.number) : left = right := by
  cases left
  cases right
  simp only at same
  subst same
  rfl

theorem ofNumber?_eq_some_iff (number : Int) (date : Date) :
    ofNumber? number = some date ↔ (date.number : Int) = number := by
  have positive := date.one_le_number
  have inCalendar := date.number_le
  rw [ofNumber?]
  split
  · rename_i isDay
    rw [Option.some.injEq]
    constructor
    · rintro rfl
      dsimp only
      omega
    · intro same
      exact eq_of_number (by dsimp only; omega)
  · rename_i noDay
    exact iff_of_false (by simp) fun same => noDay (by omega)

section

variable (date : Date)

theorem year_spec :
    daysBeforeYear date.year < date.number ∧ date.number ≤ daysBeforeYear (date.year + 1) :=
  yearOfDay_spec date.one_le_number

theorem year_bounds : 1 ≤ date.year ∧ date.year ≤ 9999 := by
  refine ⟨one_le_yearOfDay date.one_le_number, ?_⟩
  have isAfter := date.year_spec.1
  have inCalendar := date.number_le
  by_contra isLater
  have end_le := daysBeforeYear_mono (show 9999 + 1 ≤ date.year by omega)
  have isEnd : daysBeforeYear (9999 + 1) = lastDayNumber := by decide
  omega

theorem yearDay_bounds :
    1 ≤ date.yearDay ∧ date.yearDay ≤ daysBeforeMonth (isLeapYear date.year) 13 :=
  dayOfYear_bounds date.one_le_number

theorem month_spec :
    (1 ≤ date.month ∧ date.month ≤ 12) ∧
      daysBeforeMonth (isLeapYear date.year) date.month < date.yearDay ∧
      date.yearDay ≤ daysBeforeMonth (isLeapYear date.year) (date.month + 1) :=
  monthOfYearDay_spec date.yearDay_bounds.1 date.yearDay_bounds.2

theorem month_bounds : 1 ≤ date.month ∧ date.month ≤ 12 := date.month_spec.1

theorem number_eq : date.number = dayNumber date.year date.month date.day :=
  (dayNumber_parts date.one_le_number rfl rfl rfl).symm

theorem day_bounds : 1 ≤ date.day ∧ date.day ≤ daysInMonth (isLeapYear date.year) date.month := by
  have inMonth := date.month_spec.2
  rw [daysBeforeMonth_succ] at inMonth
  rw [day]
  omega

def IsIn (date : Date) (year month : Nat) : Prop :=
  dayNumber year month 0 < date.number ∧ date.number ≤ dayNumber year (month + 1) 0

theorem isIn_month : date.IsIn date.year date.month := by
  have day := date.day_bounds
  have number := date.number_eq
  rw [IsIn, dayNumber_next_month, number, dayNumber_add_day _ _ date.day]
  omega

theorem isIn_iff {year month : Nat} (positive : 1 ≤ year) (isMonth : 1 ≤ month ∧ month ≤ 12) :
    date.IsIn year month ↔ date.year = year ∧ date.month = month := by
  constructor
  · rintro ⟨isAfter, isBefore⟩
    rw [dayNumber, Nat.add_zero] at isAfter isBefore
    have ends := daysBeforeMonth_mono (isLeapYear year) (show month + 1 ≤ 13 by omega)
    have sameYear : date.year = year := by
      refine eq_of_between daysBeforeYear_mono date.year_spec ⟨by omega, ?_⟩
      rw [daysBeforeYear_succ positive]
      omega
    refine ⟨sameYear, ?_⟩
    have inMonth := date.month_spec.2
    rw [yearDay, sameYear] at inMonth
    exact eq_of_between (daysBeforeMonth_mono (isLeapYear year)) inMonth ⟨by omega, by omega⟩
  · rintro ⟨rfl, rfl⟩
    exact date.isIn_month

end

theorem ofCivil?_eq_some_iff (year month day : Nat) (date : Date) :
    ofCivil? year month day = some date ↔ year = date.year ∧ month = date.month ∧ day = date.day := by
  rw [ofCivil?]
  split
  · rename_i isCivil
    obtain ⟨positive, _, firstMonth, lastMonth, firstDay, lastDay⟩ := isCivil
    rw [ofNumber?_eq_some_iff]
    constructor
    · intro number
      have inMonth : date.IsIn year month := by
        rw [dayNumber_add_day] at number
        rw [IsIn, dayNumber_next_month]
        omega
      obtain ⟨rfl, rfl⟩ := (date.isIn_iff positive ⟨firstMonth, lastMonth⟩).mp inMonth
      have isDay := date.number_eq
      rw [dayNumber_add_day] at number isDay
      exact ⟨rfl, rfl, by omega⟩
    · rintro ⟨rfl, rfl, rfl⟩
      rw [date.number_eq]
  · rename_i notCivil
    refine iff_of_false (by simp) ?_
    rintro ⟨rfl, rfl, rfl⟩
    exact notCivil ⟨date.year_bounds.1, date.year_bounds.2, date.month_bounds.1,
      date.month_bounds.2, date.day_bounds.1, date.day_bounds.2⟩

end Date

def Date.civil (date : Date) : CivilDate := ⟨date.year, date.month, date.day⟩

theorem CivilDate.toDate_eq_ok_iff (civil : CivilDate) (date : Date) :
    civil.toDate = .ok date ↔ civil = date.civil := by
  obtain ⟨year, month, day⟩ := civil
  have year_bounds := date.year_bounds
  have month_bounds := date.month_bounds
  rw [Date.civil, CivilDate.mk.injEq, ← Date.ofCivil?_eq_some_iff, toDate]
  split
  · refine iff_of_false (by simp) fun isDate => ?_
    obtain ⟨rfl, rfl, _⟩ := (Date.ofCivil?_eq_some_iff _ _ _ _).mp isDate
    simp only at *
    omega
  · split
    · refine iff_of_false (by simp) fun isDate => ?_
      obtain ⟨rfl, rfl, _⟩ := (Date.ofCivil?_eq_some_iff _ _ _ _).mp isDate
      simp only at *
      omega
    · cases Date.ofCivil? year month day <;> simp

end ConversionTracking
