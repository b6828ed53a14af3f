import ConversionTracking.Calendar.DateRange
import ConversionTracking.Proofs.Calendar.Civil

/-!
Ranges of whole days and the periods before them. The period before a range ends on the day before
the range starts and has as many days, if they are all in the calendar.
-/

namespace ConversionTracking

open Calendar

namespace Date

theorem addDays?_eq_some_iff (date : Date) (days : Int) (day : Date) :
    date.addDays? days = some day ↔ (day.number : Int) = date.number + days :=
  ofNumber?_eq_some_iff _ _

end Date

namespace Instant

theorem clockMicros_startOfDay (date : Date) :
    (startOfDay date).clockMicros = date.number * microsPerDay := by
  simp [clockMicros, startOfDay]

theorem clockMicros_endOfDay (date : Date) :
    (endOfDay date).clockMicros = (date.number + 1) * microsPerDay - 1 := by
  simp only [clockMicros, endOfDay, microsPerDay, microsPerSecond]
  omega

theorem compare?_of_naive {left right : Instant} (leftNaive : left.offset = none)
    (rightNaive : right.offset = none) :
    left.compare? right = some (compare left.clockMicros right.clockMicros) := by
  rw [compare?, leftNaive, rightNaive]

theorem startOfDay_compare?_endOfDay (first last : Date) :
    (startOfDay first).compare? (endOfDay last) ≠ some .gt ↔ first.number ≤ last.number := by
  rw [compare?_of_naive rfl rfl, ne_eq, Option.some.injEq, Int.compare_eq_gt,
    clockMicros_startOfDay, clockMicros_endOfDay]
  simp only [microsPerDay, microsPerSecond]
  omega

end Instant

namespace DateRange

theorem dayAfter_eq_ok_iff (date : Date) (days : Int) (day : Date) :
    dayAfter date days = .ok day ↔ (day.number : Int) = date.number + days := by
  rw [← Date.addDays?_eq_some_iff, dayAfter]
  cases date.addDays? days <;> simp

theorem exists_dayAfter (date : Date) (change : Int) (isDay : 1 ≤ date.number + change)
    (inCalendar : date.number + change ≤ lastDayNumber) :
    ∃ day, dayAfter date change = .ok day ∧ (day.number : Int) = date.number + change := by
  let day : Date := ⟨(date.number + change).toNat, by omega, by omega⟩
  have number : (day.number : Int) = date.number + change := by
    dsimp only [day]
    omega
  exact ⟨day, (dayAfter_eq_ok_iff _ _ _).mpr number, number⟩

theorem dayAfter_of_outside {date : Date} {change : Int}
    (isOutside : date.number + change < 1 ∨ lastDayNumber < date.number + change) :
    dayAfter date change = .error .outsideCalendar := by
  rw [dayAfter]
  cases found : date.addDays? change with
  | none => rfl
  | some day =>
      have number := (Date.addDays?_eq_some_iff _ _ _).mp found
      have isDay := day.one_le_number
      have inCalendar := day.number_le
      omega

theorem ext_ends {left right : DateRange} (start : left.start = right.start)
    (finish : left.finish = right.finish) : left = right := by
  cases left
  cases right
  simp only at start finish
  subst start finish
  rfl

def contains (range : DateRange) (moment : Instant) : Bool :=
  range.start.clockMicros ≤ moment.clockMicros && moment.clockMicros ≤ range.finish.clockMicros

/-- The range starts with the first day and ends with the last one. -/
structure Spans (range : DateRange) (first last : Date) : Prop where
  start : range.start = .startOfDay first
  finish : range.finish = .endOfDay last

variable {range earlier joined : DateRange} {first last : Date}

theorem between_eq_ok_iff (start finish : Instant) :
    between start finish = .ok range ↔
      (start.compare? finish).isSome = true ∧ range.start = start ∧ range.finish = finish := by
  rw [between]
  split
  · rename_i unordered
    simp only [reduceCtorEq, false_iff]
    rintro ⟨isOrdered, _⟩
    rw [Option.isNone_iff_eq_none] at unordered
    simp [unordered] at isOrdered
  · rename_i isOrdered
    split
    · constructor
      · intro same
        obtain rfl := Except.ok.inj same
        exact ⟨by simpa [Option.isSome_iff_ne_none] using isOrdered, rfl, rfl⟩
      · rintro ⟨_, isStart, isFinish⟩
        exact congrArg Except.ok (ext_ends isStart.symm isFinish.symm)
    · rename_i isAfter
      simp only [reduceCtorEq, false_iff]
      rintro ⟨_, rfl, rfl⟩
      exact isAfter range.ordered

theorem wholeDays_eq_ok_iff : wholeDays first last = .ok range ↔ range.Spans first last := by
  rw [wholeDays, between_eq_ok_iff]
  constructor
  · rintro ⟨_, start, finish⟩
    exact ⟨start, finish⟩
  · rintro ⟨start, finish⟩
    exact ⟨rfl, start, finish⟩

theorem Spans.ordered (spans : range.Spans first last) : first.number ≤ last.number := by
  have ordered := range.ordered
  rw [spans.start, spans.finish] at ordered
  exact (Instant.startOfDay_compare?_endOfDay first last).mp ordered

theorem exists_wholeDays (ordered : first.number ≤ last.number) :
    ∃ range, wholeDays first last = .ok range :=
  ⟨⟨.startOfDay first, .endOfDay last, (Instant.startOfDay_compare?_endOfDay first last).mpr ordered⟩,
    wholeDays_eq_ok_iff.mpr ⟨rfl, rfl⟩⟩

theorem Spans.clockMicros_le (spans : range.Spans first last) :
    range.start.clockMicros ≤ range.finish.clockMicros := by
  have ordered := spans.ordered
  rw [spans.start, spans.finish, Instant.clockMicros_startOfDay, Instant.clockMicros_endOfDay]
  simp only [microsPerDay, microsPerSecond]
  omega

theorem Spans.firstDay_eq (spans : range.Spans first last) : range.firstDay = first := by
  rw [firstDay, spans.start]
  rfl

theorem Spans.lastDay_eq (spans : range.Spans first last) : range.lastDay = last := by
  rw [lastDay, spans.finish]
  rfl

theorem Spans.days_eq (spans : range.Spans first last) :
    range.days = (last.number : Int) - first.number + 1 := by
  rw [days, firstDay, lastDay, spans.start, spans.finish]
  rfl

theorem Spans.contains_iff (spans : range.Spans first last) (moment : Instant) :
    range.contains moment = true ↔
      first.number ≤ moment.date.number ∧ moment.date.number ≤ last.number := by
  have withinDay := moment.micros_lt
  rw [contains, spans.start, spans.finish, Bool.and_eq_true, decide_eq_true_eq,
    decide_eq_true_eq, Instant.clockMicros_startOfDay, Instant.clockMicros_endOfDay,
    Instant.clockMicros]
  simp only [microsPerDay, microsPerSecond] at withinDay ⊢
  omega

theorem previousPeriod_eq_ok_iff :
    range.previousPeriod = .ok earlier ↔
      ∃ first last : Date, earlier.Spans first last ∧
        (first.number : Int) = range.firstDay.number - range.days ∧
        last.number + 1 = range.firstDay.number := by
  have same_iff : ∀ day : Date,
      (day.number : Int) = range.firstDay.number + -1 ↔ day.number + 1 = range.firstDay.number := by
    intro day
    omega
  unfold previousPeriod
  constructor
  · intro isEarlier
    cases isFirst : dayAfter range.firstDay (-range.days) with
    | error fault =>
        rw [isFirst] at isEarlier
        contradiction
    | ok first =>
        cases isLast : dayAfter range.firstDay (-1) with
        | error fault =>
            rw [isFirst, isLast] at isEarlier
            contradiction
        | ok last =>
            simp only [isFirst, isLast, bind, Except.bind] at isEarlier
            refine ⟨first, last, wholeDays_eq_ok_iff.mp isEarlier, ?_,
              (same_iff last).mp ((dayAfter_eq_ok_iff _ _ _).mp isLast)⟩
            have number := (dayAfter_eq_ok_iff _ _ _).mp isFirst
            omega
  · rintro ⟨first, last, spans, isFirst, isLast⟩
    have firstDay := (dayAfter_eq_ok_iff range.firstDay (-range.days) first).mpr (by omega)
    have lastDay := (dayAfter_eq_ok_iff range.firstDay (-1) last).mpr ((same_iff last).mpr isLast)
    simp only [firstDay, lastDay, bind, Except.bind]
    exact wholeDays_eq_ok_iff.mpr spans

/-- A period as long as the range and before it needs as many days of the calendar. -/
theorem exists_previousPeriod_iff (positive : 0 < range.days) :
    (∃ earlier, range.previousPeriod = .ok earlier) ↔ range.days < range.firstDay.number := by
  have inCalendar := range.firstDay.number_le
  simp only [previousPeriod_eq_ok_iff]
  constructor
  · rintro ⟨earlier, earlierFirst, earlierLast, earlierSpans, isFirst, isLast⟩
    have isDay := earlierFirst.one_le_number
    omega
  · intro fits
    obtain ⟨earlierFirst, _, isFirst⟩ :=
      exists_dayAfter range.firstDay (-range.days) (by omega) (by omega)
    obtain ⟨earlierLast, _, isLast⟩ := exists_dayAfter range.firstDay (-1) (by omega) (by omega)
    have earlierOrdered : earlierFirst.number ≤ earlierLast.number := by omega
    obtain ⟨earlier, isEarlier⟩ := exists_wholeDays earlierOrdered
    exact ⟨earlier, earlierFirst, earlierLast, wholeDays_eq_ok_iff.mp isEarlier, isFirst, by omega⟩

theorem Spans.exists_previousPeriod_iff (spans : range.Spans first last) :
    (∃ earlier, range.previousPeriod = .ok earlier) ↔ range.days < first.number := by
  have ordered := spans.ordered
  have days := spans.days_eq
  rw [DateRange.exists_previousPeriod_iff (by omega), spans.firstDay_eq]

/-- Two ranges follow each other without a moment between them, and together make up a third. -/
structure Joins (earlier range joined : DateRange) : Prop where
  start : joined.start = earlier.start
  finish : joined.finish = range.finish
  adjacent : earlier.finish.clockMicros + 1 = range.start.clockMicros
  earlierOrdered : earlier.start.clockMicros ≤ earlier.finish.clockMicros
  ordered : range.start.clockMicros ≤ range.finish.clockMicros

theorem previousPeriod_joins (isWhole : wholeDays first last = .ok range)
    (isEarlier : range.previousPeriod = .ok earlier) :
    ∃ joined, between earlier.start range.finish = .ok joined ∧ earlier.Joins range joined := by
  have spans := wholeDays_eq_ok_iff.mp isWhole
  obtain ⟨earlierFirst, earlierLast, earlierSpans, isFirst, adjacent⟩ :=
    previousPeriod_eq_ok_iff.mp isEarlier
  rw [spans.firstDay_eq] at isFirst adjacent
  have ordered := spans.ordered
  have earlierOrdered := earlierSpans.ordered
  have outerOrdered : earlierFirst.number ≤ last.number := by omega
  obtain ⟨joined, isJoined⟩ := exists_wholeDays outerOrdered
  have joinedSpans := wholeDays_eq_ok_iff.mp isJoined
  refine ⟨joined, ?_, ?_, ?_, ?_, ?_, ?_⟩
  · rw [earlierSpans.start, spans.finish]
    exact isJoined
  · rw [joinedSpans.start, earlierSpans.start]
  · rw [joinedSpans.finish, spans.finish]
  · rw [earlierSpans.finish, spans.start, Instant.clockMicros_endOfDay,
      Instant.clockMicros_startOfDay, ← adjacent, Int.sub_add_cancel, Int.natCast_succ]
  · exact earlierSpans.clockMicros_le
  · exact spans.clockMicros_le

end DateRange

end ConversionTracking
