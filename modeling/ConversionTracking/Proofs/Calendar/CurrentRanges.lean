import ConversionTracking.Proofs.Calendar.Periods
import ConversionTracking.Proofs.Store.Database

/-!
Ranges taken from the current moment. The last days are the day of the moment and as many days before
it, and the month of a moment holds the moments of the same year and month, whatever the lengths of its
month and of the next one are.
-/

namespace ConversionTracking

open Calendar

section

variable {α β : Type} {next : α → Except CalendarFault β}

-- The kernel takes these steps by name; to find them it would compute with a clock's microseconds.
theorem ok_bind (value : α) : (Except.ok value >>= next) = next value := rfl

theorem error_bind (fault : CalendarFault) : (Except.error fault >>= next) = .error fault := rfl

end

namespace Instant

theorem addMicros?_daysBefore (moment : Instant) {days : Int} (notNegative : 0 ≤ days) :
    ((moment.date.number : Int) ≤ days ∧ moment.addMicros? (-(days * microsPerDay)) = none) ∨
      ∃ earlier, moment.addMicros? (-(days * microsPerDay)) = some earlier ∧
        (earlier.date.number : Int) = moment.date.number - days := by
  have withinDay := moment.micros_lt
  have inCalendar := moment.date.number_le
  have quotient : (moment.clockMicros + -(days * microsPerDay)) / microsPerDay =
      (moment.date.number : Int) - days := by
    rw [clockMicros]
    simp only [microsPerDay, microsPerSecond] at withinDay ⊢
    omega
  rw [addMicros?]
  rw [quotient]
  by_cases early : (moment.date.number : Int) ≤ days
  · left
    refine ⟨early, ?_⟩
    rw [Option.map_eq_none_iff, Date.ofNumber?, dif_neg (by omega)]
  · right
    have inRange : 1 ≤ ((moment.date.number : Int) - days).toNat ∧
        ((moment.date.number : Int) - days).toNat ≤ lastDayNumber := by omega
    rw [Date.ofNumber?, dif_pos inRange]
    refine ⟨_, rfl, ?_⟩
    dsimp only
    omega

end Instant

namespace DateRange

variable {days : Nat} (now : Instant)

theorem micros_whole (days : Int) : (DayCount.whole days).micros = .ok (days * microsPerDay) := rfl

theorem days_of_span (days : Int) : days * microsPerDay / microsPerDay = days :=
  Int.mul_ediv_cancel _ (by decide)

theorem lastDays_of_span (short : days ≤ 999999999) :
    lastDays (.whole days) now =
      (now.addMicros? (-(days * microsPerDay))).elim (.error .outsideCalendar)
        fun start => wholeDays start.date now.date := by
  have checked : checkedSpan (days * microsPerDay) = .ok (days * microsPerDay) := by
    rw [checkedSpan, days_of_span, if_pos (by omega), if_pos (by omega)]
  rw [lastDays, micros_whole, ok_bind, checked, ok_bind]
  cases now.addMicros? (-(days * microsPerDay)) with
  | none => rfl
  | some start => rw [Option.elim_some]

theorem lastDays_of_short (short : days ≤ 999999999) :
    (now.date.number ≤ days ∧ lastDays (.whole days) now = .error .outsideCalendar) ∨
      ∃ first range, first.number + days = now.date.number ∧
        lastDays (.whole days) now = .ok range ∧ range.Spans first now.date := by
  rw [lastDays_of_span now short]
  rcases now.addMicros?_daysBefore (Int.natCast_nonneg days) with
    ⟨early, outside⟩ | ⟨earlier, isEarlier, isBefore⟩
  · rw [outside]
    exact Or.inl ⟨by omega, rfl⟩
  · rw [isEarlier, Option.elim_some]
    have ordered : earlier.date.number ≤ now.date.number := by omega
    obtain ⟨range, isRange⟩ := exists_wholeDays ordered
    exact Or.inr ⟨_, range, by omega, isRange, wholeDays_eq_ok_iff.mp isRange⟩

theorem lastDays_of_long (long : 999999999 < days) :
    ∃ fault, lastDays (.whole days) now = .error fault := by
  have refused : ∃ fault, checkedSpan (days * microsPerDay) = .error fault := by
    rw [checkedSpan, days_of_span]
    split
    · rw [if_neg (by omega)]
      exact ⟨_, rfl⟩
    · exact ⟨_, rfl⟩
  obtain ⟨fault, isRefused⟩ := refused
  rw [lastDays, micros_whole, ok_bind, isRefused, error_bind]
  exact ⟨fault, rfl⟩

/-- The last days exist as far as the calendar goes back. -/
theorem lastDays_cases (days : Nat) :
    (now.date.number ≤ days ∧ ∃ fault, lastDays (.whole days) now = .error fault) ∨
      ∃ first range, first.number + days = now.date.number ∧
        lastDays (.whole days) now = .ok range ∧ range.Spans first now.date := by
  by_cases short : days ≤ 999999999
  · rcases lastDays_of_short now short with ⟨early, outside⟩ | isRange
    · exact Or.inl ⟨early, _, outside⟩
    · exact Or.inr isRange
  · have inCalendar := now.date.number_le
    refine Or.inl ⟨?_, lastDays_of_long now (Nat.lt_of_not_le short)⟩
    rw [lastDayNumber] at inCalendar
    omega

theorem exists_nextMonth {year month : Nat} (isYear : 1 ≤ year ∧ year ≤ 9999)
    (isMonth : 1 ≤ month ∧ month ≤ 12) (notLast : ¬(year = 9999 ∧ month = 12)) :
    ∃ nextYear nextMonth, (1 ≤ nextYear ∧ nextYear ≤ 9999) ∧ (1 ≤ nextMonth ∧ nextMonth ≤ 12) ∧
      dayNumber nextYear nextMonth 0 = dayNumber year (month + 1) 0 := by
  by_cases isDecember : month = 12
  · subst isDecember
    exact ⟨year + 1, 1, by omega, by decide, dayNumber_next_year isYear.1⟩
  · exact ⟨year, month + 1, isYear, by omega, rfl⟩

theorem dayNumber_le_last {year month : Nat} (isYear : 1 ≤ year ∧ year ≤ 9999) (isMonth : month ≤ 12) :
    dayNumber year (month + 1) 0 ≤ lastDayNumber := by
  have inYear := daysBeforeMonth_mono (isLeapYear year) (show month + 1 ≤ 13 by omega)
  have inCalendar := daysBeforeYear_mono (show year + 1 ≤ 9999 + 1 by omega)
  have isEnd : daysBeforeYear (9999 + 1) = lastDayNumber := by decide
  rw [daysBeforeYear_succ isYear.1] at inCalendar
  rw [dayNumber]
  omega

theorem exists_firstOfMonth (date : Date) :
    ∃ first, dayAfter date (1 - (date.day : Int)) = .ok first ∧
      first.number = dayNumber date.year date.month 0 + 1 := by
  have number := date.number_eq
  have isDay := date.day_bounds
  have inCalendar := date.number_le
  rw [dayNumber_add_day] at number
  obtain ⟨first, isFirst, firstNumber⟩ :=
    exists_dayAfter date (1 - (date.day : Int)) (by omega) (by omega)
  exact ⟨first, isFirst, by omega⟩

theorem thisMonth_of_notLast (notLast : ¬(now.date.year = 9999 ∧ now.date.month = 12)) :
    ∃ first last range, thisMonth now = .ok range ∧ range.Spans first last ∧
      first.number = dayNumber now.date.year now.date.month 0 + 1 ∧
      last.number = dayNumber now.date.year (now.date.month + 1) 0 := by
  have isMonth := now.date.month_bounds
  have monthLength := daysInMonth_bounds (isLeapYear now.date.year) isMonth
  obtain ⟨nextYear, nextMonth, isNextYear, isNextMonth, nextStart⟩ :=
    exists_nextMonth now.date.year_bounds isMonth notLast
  have nextLength := daysInMonth_bounds (isLeapYear nextYear) isNextMonth
  have nextEnd := dayNumber_le_last isNextYear isNextMonth.2
  rw [dayNumber_next_month] at nextEnd nextStart ⊢
  obtain ⟨first, isFirst, firstNumber⟩ := exists_firstOfMonth now.date
  obtain ⟨later, isLater, laterNumber⟩ :=
    exists_dayAfter first 32 (by omega) (by omega)
  have inNext : later.IsIn nextYear nextMonth := by
    rw [Date.IsIn, dayNumber_next_month]
    omega
  obtain ⟨rfl, rfl⟩ := (later.isIn_iff isNextYear.1 isNextMonth).mp inNext
  obtain ⟨nextFirst, isNextFirst, nextFirstNumber⟩ := exists_firstOfMonth later
  obtain ⟨last, isLast, lastNumber⟩ :=
    exists_dayAfter nextFirst (-1) (by omega) (by omega)
  have ordered : first.number ≤ last.number := by omega
  obtain ⟨range, isRange⟩ := exists_wholeDays ordered
  refine ⟨first, last, range, ?_, wholeDays_eq_ok_iff.mp isRange, firstNumber, by omega⟩
  rw [thisMonth, isFirst, ok_bind, isLater, ok_bind, isNextFirst, ok_bind, isLast, ok_bind, isRange]

theorem thisMonth_of_last (isLast : now.date.year = 9999 ∧ now.date.month = 12) :
    thisMonth now = .error .outsideCalendar := by
  have december : dayNumber 9999 12 0 + 31 = lastDayNumber := by decide
  obtain ⟨first, isFirst, firstNumber⟩ := exists_firstOfMonth now.date
  rw [isLast.1, isLast.2] at firstNumber
  rw [thisMonth, isFirst, ok_bind, dayAfter_of_outside (by omega), error_bind]

/-- Before the last month of the calendar, the month of a moment holds exactly the moments of the same
year and month. The last days hold exactly the moments whose day is the moment's or one of so many
before it. Where the calendar ends first, neither exists. -/
theorem month_and_lastDays_contain (now : Instant) :
    (now.date.year = 9999 ∧ now.date.month = 12 → thisMonth now = .error .outsideCalendar) ∧
    (¬(now.date.year = 9999 ∧ now.date.month = 12) →
      ∃ range, thisMonth now = .ok range ∧ ∀ moment, range.contains moment = true ↔
        moment.date.year = now.date.year ∧ moment.date.month = now.date.month) ∧
    ∀ days : Nat,
      (now.date.addDays? (-days) = none → ∃ fault, lastDays (.whole days) now = .error fault) ∧
      ∀ first, now.date.addDays? (-days) = some first →
        ∃ range, lastDays (.whole days) now = .ok range ∧ ∀ moment, range.contains moment = true ↔
          now.date.number ≤ moment.date.number + days ∧
            moment.date.number ≤ now.date.number := by
  refine ⟨thisMonth_of_last now, fun notLast => ?_, fun days => ?_⟩
  · obtain ⟨first, last, range, isRange, spans, firstNumber, lastNumber⟩ :=
      thisMonth_of_notLast now notLast
    refine ⟨range, isRange, fun moment => ?_⟩
    rw [spans.contains_iff, firstNumber, lastNumber, Nat.succ_le_iff]
    exact moment.date.isIn_iff now.date.year_bounds.1 now.date.month_bounds
  · rcases lastDays_cases now days with ⟨early, failed⟩ | ⟨first, range, isFirst, isRange, spans⟩
    · refine ⟨fun _ => failed, fun first isFirst => ?_⟩
      have number := (Date.addDays?_eq_some_iff _ _ _).mp isFirst
      have positive := first.one_le_number
      omega
    · have found : now.date.addDays? (-days) = some first := by
        rw [Date.addDays?_eq_some_iff]
        omega
      constructor
      · intro isOutside
        rw [found] at isOutside
        contradiction
      · intro _ _
        refine ⟨range, isRange, fun moment => ?_⟩
        rw [spans.contains_iff]
        omega

def leapFebruary : Instant :=
  ⟨⟨738926, by decide, by decide⟩, (12 * 60 + 30) * 60 * microsPerSecond, by decide, none⟩

theorem leapFebruary_holds_leap_day :
    (¬(leapFebruary.date.year = 9999 ∧ leapFebruary.date.month = 12) ∧
      ∃ first, leapFebruary.date.addDays? (-(7 : Nat)) = some first) ∧
    ∃ month week, thisMonth leapFebruary = .ok month ∧
      lastDays (.whole (7 : Nat)) leapFebruary = .ok week ∧
      month.contains (.endOfDay ⟨738945, by decide, by decide⟩) = true ∧
      month.contains (.startOfDay ⟨738946, by decide, by decide⟩) = false ∧
      week.contains (.startOfDay ⟨738919, by decide, by decide⟩) = true ∧
      week.contains (.endOfDay ⟨738918, by decide, by decide⟩) = false := by
  have notLast : ¬(leapFebruary.date.year = 9999 ∧ leapFebruary.date.month = 12) := by
    decide +kernel
  have isFirst : leapFebruary.date.addDays? (-(7 : Nat)) =
      some ⟨738919, by decide, by decide⟩ := by
    decide +kernel
  obtain ⟨_, ofMonth, ofDays⟩ := month_and_lastDays_contain leapFebruary
  obtain ⟨month, isMonth, inMonth⟩ := ofMonth notLast
  obtain ⟨week, isWeek, inWeek⟩ := (ofDays 7).2 _ isFirst
  refine ⟨⟨notLast, _, isFirst⟩, month, week, isMonth, isWeek, ?_⟩
  simp only [Bool.eq_false_iff, ne_eq, inMonth, inWeek]
  decide +kernel

end DateRange

end ConversionTracking
