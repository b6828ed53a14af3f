import ConversionTracking.Proofs.Calendar.Periods
import ConversionTracking.Proofs.Store.Database
import Mathlib.Data.List.Chain

/-!
The periods before a range, each taken from the one after it. They are whole days, as many as the days
that the range touches, and they follow each other without a gap up to the day before it. A period that
would start before the calendar does is refused.
-/

namespace ConversionTracking

open Calendar

theorem Date.addDays?_eq_none_iff (date : Date) (days : Nat) :
    date.addDays? (-(days : Int)) = none ↔ date.number ≤ days := by
  have inCalendar := date.number_le
  constructor
  · intro isOutside
    refine Nat.le_of_not_lt fun isInside => ?_
    let earlier : Date := ⟨date.number - days, by omega, by omega⟩
    have isEarlier : date.addDays? (-(days : Int)) = some earlier := by
      rw [addDays?_eq_some_iff]
      dsimp only [earlier]
      omega
    rw [isOutside] at isEarlier
    contradiction
  · intro isOutside
    cases found : date.addDays? (-(days : Int)) with
    | none => rfl
    | some earlier =>
        have number := (addDays?_eq_some_iff _ _ _).mp found
        have isDay := earlier.one_le_number
        omega

namespace DateRange

/-- Neither end of the range is tied to universal time. -/
structure IsNaive (range : DateRange) : Prop where
  start : range.start.offset = none
  finish : range.finish.offset = none

variable {range period earlier later : DateRange} {first last : Date} {count : Nat}

theorem IsNaive.days_pos (naive : range.IsNaive) : 0 < range.days := by
  have ordered := range.ordered
  rw [Instant.compare?_of_naive naive.start naive.finish, ne_eq, Option.some.injEq,
    Int.compare_eq_gt, Instant.clockMicros, Instant.clockMicros] at ordered
  have withinDay := range.finish.micros_lt
  rw [days, firstDay, lastDay]
  simp only [microsPerDay, microsPerSecond] at ordered withinDay
  omega

theorem firstDay_le_of_contains {moment : Instant} (holds : range.contains moment = true) :
    range.firstDay.number ≤ moment.date.number := by
  rw [contains, Bool.and_eq_true, decide_eq_true_eq, Instant.clockMicros,
    Instant.clockMicros] at holds
  have withinDay := moment.micros_lt
  obtain ⟨isLater, _⟩ := holds
  rw [firstDay]
  simp only [microsPerDay, microsPerSecond] at isLater withinDay
  omega

/-- The period is made of whole days, as many as the range has, and starts so many times their number
before the range. -/
structure Precedes (period range : DateRange) (times : Nat) : Prop where
  spans : period.Spans period.firstDay period.lastDay
  days_eq : period.days = range.days
  first : range.firstDay.addDays? (-(times * range.days)) = some period.firstDay
  last : range.firstDay.addDays? (-((times - 1 : Int) * range.days) - 1) = some period.lastDay
  contains_iff : ∀ moment, period.contains moment = true ↔
    period.firstDay.number ≤ moment.date.number ∧ moment.date.number ≤ period.lastDay.number

theorem Spans.precedes (spans : period.Spans first last) {times : Nat}
    (isFirst : (first.number : Int) = range.firstDay.number - times * range.days)
    (isLast : (last.number : Int) = first.number + range.days - 1) : period.Precedes range times := by
  obtain rfl := spans.firstDay_eq
  obtain rfl := spans.lastDay_eq
  have product : (times - 1 : Int) * range.days = times * range.days - range.days := by
    rw [Int.sub_mul, Int.one_mul]
  refine ⟨spans, ?_, ?_, ?_, spans.contains_iff⟩
  · rw [spans.days_eq]
    omega
  · rw [Date.addDays?_eq_some_iff]
    omega
  · rw [Date.addDays?_eq_some_iff, product]
    omega

theorem Precedes.firstDay_eq {times : Nat} (precedes : period.Precedes range times) :
    (period.firstDay.number : Int) = range.firstDay.number - times * range.days := by
  have first := (Date.addDays?_eq_some_iff _ _ _).mp precedes.first
  omega

theorem precedes_of_previousPeriod (isPrevious : range.previousPeriod = .ok period) :
    period.Precedes range 1 := by
  obtain ⟨first, last, spans, isFirst, adjacent⟩ := previousPeriod_eq_ok_iff.mp isPrevious
  exact spans.precedes (by omega) (by omega)

theorem Precedes.trans {times more : Nat} (precedes : period.Precedes range times)
    (isEarlier : earlier.Precedes period more) : earlier.Precedes range (times + more) := by
  have first := precedes.firstDay_eq
  have earlierFirst := isEarlier.firstDay_eq
  have days := isEarlier.spans.days_eq
  have sameDays := isEarlier.days_eq
  rw [precedes.days_eq] at earlierFirst sameDays
  refine isEarlier.spans.precedes ?_ ?_
  · rw [Int.natCast_add, Int.add_mul]
    omega
  · omega

theorem Precedes.disjoint {times : Nat} (positive : 0 < times) (hasDays : 0 < range.days)
    (precedes : period.Precedes range times) (moment : Instant) :
    ¬(period.contains moment = true ∧ range.contains moment = true) := by
  rintro ⟨inPeriod, inRange⟩
  have inFirst := firstDay_le_of_contains inRange
  have inLast := ((precedes.contains_iff moment).mp inPeriod).2
  have last := (Date.addDays?_eq_some_iff _ _ _).mp precedes.last
  have nonnegative : 0 ≤ (times - 1 : Int) * range.days :=
    Int.mul_nonneg (by omega) (Int.le_of_lt hasDays)
  omega

/-- The earlier range is the previous period of the later one: it is as long and ends on the day before
the later one starts. -/
structure Abuts (later earlier : DateRange) : Prop where
  isPrevious : later.previousPeriod = .ok earlier
  days_eq : earlier.days = later.days
  adjacent : earlier.lastDay.addDays? 1 = some later.firstDay

theorem abuts_of_previousPeriod (isPrevious : later.previousPeriod = .ok earlier) :
    later.Abuts earlier := by
  have precedes := precedes_of_previousPeriod isPrevious
  have last := (Date.addDays?_eq_some_iff _ _ _).mp precedes.last
  refine ⟨isPrevious, precedes.days_eq, ?_⟩
  rw [Date.addDays?_eq_some_iff]
  omega

theorem previousPeriod_of_outside (isOutside : range.firstDay.number ≤ range.days) :
    range.previousPeriod = .error .outsideCalendar := by
  rw [previousPeriod, dayAfter_of_outside (by omega)]
  rfl

theorem previousPeriods_succ_eq_ok_iff {periods : List DateRange} :
    range.previousPeriods (count + 1) = .ok periods ↔
      ∃ previous others, range.previousPeriod = .ok previous ∧
        previous.previousPeriods count = .ok others ∧ periods = previous :: others := by
  simp only [previousPeriods, Except.bind_eq_ok_iff, pure, Except.pure, Except.ok.injEq]
  constructor
  · rintro ⟨previous, isPrevious, others, areOthers, rfl⟩
    exact ⟨previous, others, isPrevious, areOthers, rfl⟩
  · rintro ⟨previous, others, isPrevious, areOthers, rfl⟩
    exact ⟨previous, isPrevious, others, areOthers, rfl⟩

theorem exists_previousPeriods_iff (count : Nat) (hasDays : 0 < range.days) :
    (∃ periods, range.previousPeriods count = .ok periods) ↔
      count * range.days < range.firstDay.number := by
  induction count generalizing range with
  | zero =>
      have isDay := range.firstDay.one_le_number
      constructor
      · intro _
        omega
      · intro _
        exact ⟨[], rfl⟩
  | succ count ih =>
      have product : ((count + 1 : Nat) : Int) * range.days = count * range.days + range.days := by
        rw [Int.natCast_add, Int.add_mul, Int.natCast_one, Int.one_mul]
      have nonnegative : 0 ≤ count * range.days := Int.mul_nonneg (by omega) (Int.le_of_lt hasDays)
      have ofPrevious {previous : DateRange} (isPrevious : range.previousPeriod = .ok previous) :
          (∃ others, previous.previousPeriods count = .ok others) ↔
            (count + 1 : Nat) * range.days < range.firstDay.number := by
        have precedes := precedes_of_previousPeriod isPrevious
        have firstDay := precedes.firstDay_eq
        rw [ih (precedes.days_eq ▸ hasDays), precedes.days_eq, product]
        omega
      constructor
      · rintro ⟨periods, arePeriods⟩
        obtain ⟨previous, others, isPrevious, areOthers, rfl⟩ :=
          previousPeriods_succ_eq_ok_iff.mp arePeriods
        exact (ofPrevious isPrevious).mp ⟨others, areOthers⟩
      · intro fits
        obtain ⟨previous, isPrevious⟩ := (exists_previousPeriod_iff hasDays).mpr (by omega)
        obtain ⟨others, areOthers⟩ := (ofPrevious isPrevious).mpr fits
        exact ⟨previous :: others,
          previousPeriods_succ_eq_ok_iff.mpr ⟨previous, others, isPrevious, areOthers, rfl⟩⟩

theorem previousPeriods_of_error {fault : CalendarFault} (hasDays : 0 < range.days)
    (failed : range.previousPeriods count = .error fault) : fault = .outsideCalendar := by
  induction count generalizing range with
  | zero => contradiction
  | succ count ih =>
      rw [previousPeriods] at failed
      cases isPrevious : range.previousPeriod with
      | error reason =>
          rw [isPrevious] at failed
          obtain rfl := Except.error.inj failed
          have notInside := mt (exists_previousPeriod_iff hasDays).mpr
            (by simp [isPrevious])
          rw [previousPeriod_of_outside (by omega)] at isPrevious
          exact (Except.error.inj isPrevious).symm
      | ok previous =>
          rw [isPrevious] at failed
          have sameDays := (precedes_of_previousPeriod isPrevious).days_eq
          cases areOthers : previous.previousPeriods count with
          | error reason =>
              simp only [bind, Except.bind, areOthers, Except.error.injEq] at failed
              subst failed
              exact ih (sameDays ▸ hasDays) areOthers
          | ok others =>
              simp only [bind, Except.bind, areOthers] at failed
              contradiction

theorem precedes_of_previousPeriods {periods : List DateRange}
    (arePeriods : range.previousPeriods count = .ok periods) {index : Nat}
    (isPeriod : periods[index]? = some period) : period.Precedes range (index + 1) := by
  induction count generalizing range periods index with
  | zero =>
      obtain rfl := Except.ok.inj arePeriods
      contradiction
  | succ count ih =>
      obtain ⟨previous, others, isPrevious, areOthers, rfl⟩ :=
        previousPeriods_succ_eq_ok_iff.mp arePeriods
      have precedes := precedes_of_previousPeriod isPrevious
      cases index with
      | zero =>
          obtain rfl := Option.some.inj isPeriod
          exact precedes
      | succ index =>
          rw [List.getElem?_cons_succ] at isPeriod
          have isEarlier := precedes.trans (ih areOthers isPeriod)
          rwa [Nat.add_comm] at isEarlier

theorem length_of_previousPeriods {periods : List DateRange}
    (arePeriods : range.previousPeriods count = .ok periods) : periods.length = count := by
  induction count generalizing range periods with
  | zero =>
      obtain rfl := Except.ok.inj arePeriods
      rfl
  | succ count ih =>
      obtain ⟨previous, others, _, areOthers, rfl⟩ := previousPeriods_succ_eq_ok_iff.mp arePeriods
      rw [List.length_cons, ih areOthers]

theorem isChain_previousPeriods {periods : List DateRange}
    (arePeriods : range.previousPeriods count = .ok periods) :
    (range :: periods).IsChain Abuts := by
  induction count generalizing range periods with
  | zero =>
      obtain rfl := Except.ok.inj arePeriods
      exact .singleton range
  | succ count ih =>
      obtain ⟨previous, others, isPrevious, areOthers, rfl⟩ :=
        previousPeriods_succ_eq_ok_iff.mp arePeriods
      exact .cons_cons (abuts_of_previousPeriod isPrevious) (ih areOthers)

theorem pairwise_previousPeriods {periods : List DateRange} (hasDays : 0 < range.days)
    (arePeriods : range.previousPeriods count = .ok periods) :
    (range :: periods).Pairwise fun later earlier =>
      ∀ moment, ¬(earlier.contains moment = true ∧ later.contains moment = true) := by
  induction count generalizing range periods with
  | zero =>
      obtain rfl := Except.ok.inj arePeriods
      exact List.pairwise_singleton _ _
  | succ count ih =>
      obtain ⟨previous, others, isPrevious, areOthers, rfl⟩ :=
        previousPeriods_succ_eq_ok_iff.mp arePeriods
      have sameDays := (precedes_of_previousPeriod isPrevious).days_eq
      refine List.pairwise_cons.mpr ⟨fun earlier isEarlier => ?_, ih (sameDays ▸ hasDays) areOthers⟩
      obtain ⟨index, atIndex⟩ := List.mem_iff_getElem?.mp isEarlier
      exact (precedes_of_previousPeriods arePeriods atIndex).disjoint (Nat.succ_pos index) hasDays

/-- The periods before a range of naive moments, each the previous period of the one after it: there are
as many as are asked for when the last of them starts in the calendar, and none otherwise. The one at a
place has the days that lie so many lengths before the range, all of them and no others, and no moment
lies in two. -/
theorem previousPeriods_tile (naive : range.IsNaive) (count : Nat) :
    (range.firstDay.addDays? (-(count * range.days)) = none →
      range.previousPeriods count = .error .outsideCalendar) ∧
    ∀ first, range.firstDay.addDays? (-(count * range.days)) = some first →
      ∃ periods, range.previousPeriods count = .ok periods ∧ periods.length = count ∧
        (range :: periods).IsChain Abuts ∧
        ((range :: periods).Pairwise fun later earlier =>
          ∀ moment, ¬(earlier.contains moment = true ∧ later.contains moment = true)) ∧
        ∀ (index : Nat) (period : DateRange), periods[index]? = some period →
          period.Precedes range (index + 1) := by
  have hasDays := naive.days_pos
  obtain ⟨days, isDays⟩ := Int.eq_ofNat_of_zero_le (Int.le_of_lt hasDays)
  have total : count * range.days = (count * days : Nat) := by
    rw [isDays, Int.natCast_mul]
  constructor
  · intro isOutside
    rw [total, Date.addDays?_eq_none_iff] at isOutside
    have noPeriods := mt (exists_previousPeriods_iff count hasDays).mp (by omega)
    cases taken : range.previousPeriods count with
    | ok periods => exact absurd ⟨periods, taken⟩ noPeriods
    | error fault => rw [previousPeriods_of_error hasDays taken]
  · intro first isFirst
    have number := (Date.addDays?_eq_some_iff _ _ _).mp isFirst
    have isDay := first.one_le_number
    obtain ⟨periods, arePeriods⟩ :=
      (exists_previousPeriods_iff count hasDays).mpr (by omega)
    exact ⟨periods, arePeriods, length_of_previousPeriods arePeriods,
      isChain_previousPeriods arePeriods, pairwise_previousPeriods hasDays arePeriods,
      fun index period isPeriod => precedes_of_previousPeriods arePeriods isPeriod⟩

def firstOfMarch : Date := ⟨738946, by decide, by decide⟩

def marchRange : DateRange where
  start := ⟨firstOfMarch, 17 * 3600 * microsPerSecond, by decide, none⟩
  finish := ⟨⟨738976, by decide, by decide⟩, 9 * 3600 * microsPerSecond, by decide, none⟩
  ordered := by decide

theorem march_periods :
    (marchRange.IsNaive ∧
      ∃ first, marchRange.firstDay.addDays? (-((2 : Nat) * marchRange.days)) = some first) ∧
    ∃ january december, marchRange.previousPeriods 2 = .ok [january, december] ∧
      january.key = "2024-01-30_2024-02-29" ∧ december.key = "2023-12-30_2024-01-29" ∧
      january.Precedes marchRange 1 ∧ december.Precedes marchRange 2 := by
  have naive : marchRange.IsNaive := ⟨rfl, rfl⟩
  have isFirst : marchRange.firstDay.addDays? (-((2 : Nat) * marchRange.days)) =
      some ⟨738884, by decide, by decide⟩ := by
    decide +kernel
  obtain ⟨periods, arePeriods, isLength, _, _, precede⟩ :=
    (previousPeriods_tile naive 2).2 _ isFirst
  obtain ⟨january, december, rfl⟩ := List.length_eq_two.mp isLength
  have keys : (marchRange.previousPeriods 2).map (·.map key) =
      .ok ["2024-01-30_2024-02-29", "2023-12-30_2024-01-29"] := by
    decide +kernel
  rw [arePeriods] at keys
  simp only [Except.map, List.map_cons, List.map_nil, Except.ok.injEq, List.cons.injEq,
    and_true] at keys
  exact ⟨⟨naive, _, isFirst⟩, january, december, arePeriods, keys.1, keys.2,
    precede 0 january rfl, precede 1 december rfl⟩

end DateRange

end ConversionTracking
