import ConversionTracking.Calendar.IsoText
import ConversionTracking.Number.Binary64

/-!
Ranges of moments, both ends included, for reports and for comparing one period with the period
before it. Ranges made from dates cover whole days.
-/

namespace ConversionTracking

structure DateRange where
  start : Instant
  finish : Instant
  ordered : start.compare? finish ≠ some .gt
deriving DecidableEq

namespace DateRange

open Calendar

def between (start finish : Instant) : Except CalendarFault DateRange :=
  if (start.compare? finish).isNone then .error .mixedOffsets
  else if ordered : start.compare? finish ≠ some .gt then .ok ⟨start, finish, ordered⟩
  else .error (.startAfterEnd start finish)

def wholeDays (first last : Date) : Except CalendarFault DateRange :=
  between (.startOfDay first) (.endOfDay last)

def dayAfter (date : Date) (days : Int) : Except CalendarFault Date :=
  match date.addDays? days with
  | some day => .ok day
  | none => .error .outsideCalendar

inductive DayCount where
  | whole (days : Int)
  | fractional (days : Binary64)
deriving DecidableEq, Repr

private def splitWhole (number : Binary64) : Int × Binary64 :=
  match number with
  | .finite negative units inRange =>
      let whole := units / Binary64.unitsPerOne
      (if negative then -(whole : Int) else whole,
        .finite negative (units % Binary64.unitsPerOne)
          (Nat.lt_of_le_of_lt (Nat.mod_le _ _) inRange))
  | other => (0, other)

/-- The nearest whole number to a rest smaller than one, a half going to the number that makes
`base` plus it even. -/
private def roundRest (base : Int) (rest : Binary64) : Int :=
  match rest.toUnits? with
  | none => 0
  | some units =>
      let double := 2 * units.natAbs
      let up : Int := if units < 0 then -1 else 1
      if double < Binary64.unitsPerOne then 0
      else if Binary64.unitsPerOne < double then up
      else if base % 2 = 0 then 0 else up

/-- The length in microseconds. The fraction of a day is scaled in double precision before it is
rounded. -/
def DayCount.micros : DayCount → Except CalendarFault Int
  | .whole days => .ok (days * microsPerDay)
  | .fractional .nan => .error .notANumber
  | .fractional (.infinite _) => .error .infiniteDuration
  | .fractional days =>
      let (full, rest) := splitWhole days
      let (scaled, left) := splitWhole ((Binary64.ofNat microsPerDay).mul rest)
      let total := full * microsPerDay + scaled
      .ok (total + roundRest total left)

def checkedSpan (micros : Int) : Except CalendarFault Int :=
  let days := micros / microsPerDay
  if days.natAbs < 0x80000000 then
    if days.natAbs ≤ 999999999 then .ok micros else .error (.durationTooLarge days)
  else .error .durationBeyondWord

def lastDays (days : DayCount) (now : Instant) : Except CalendarFault DateRange := do
  let span ← checkedSpan (← days.micros)
  match now.addMicros? (-span) with
  | none => .error .outsideCalendar
  | some start => wholeDays start.date now.date

def today (now : Instant) : Except CalendarFault DateRange := wholeDays now.date now.date

def yesterday (now : Instant) : Except CalendarFault DateRange := do
  let day ← dayAfter now.date (-1)
  wholeDays day day

/-- From the first to the last day of the month of `now`. The first day of the next month is reached
by going 32 days past the first day and back to the start of that month. -/
def thisMonth (now : Instant) : Except CalendarFault DateRange := do
  let first ← dayAfter now.date (1 - (now.date.day : Int))
  let nextMonth ← dayAfter first 32
  let nextFirst ← dayAfter nextMonth (1 - (nextMonth.day : Int))
  let last ← dayAfter nextFirst (-1)
  wholeDays first last

def ofTexts (start finish : String) : Except CalendarFault DateRange := do
  let first ← Instant.ofIso start
  let last ← Instant.ofIso finish
  wholeDays first.date last.date

def firstDay (range : DateRange) : Date := range.start.date

def lastDay (range : DateRange) : Date := range.finish.date

def days (range : DateRange) : Int := (range.lastDay.number : Int) - range.firstDay.number + 1

def key (range : DateRange) : String := range.firstDay.text ++ "_" ++ range.lastDay.text

def previousPeriod (range : DateRange) : Except CalendarFault DateRange := do
  let first ← dayAfter range.firstDay (-range.days)
  let last ← dayAfter range.firstDay (-1)
  wholeDays first last

def previousPeriods (range : DateRange) : Nat → Except CalendarFault (List DateRange)
  | 0 => .ok []
  | count + 1 => do
      let previous ← range.previousPeriod
      return previous :: (← previousPeriods previous count)

end DateRange

end ConversionTracking
