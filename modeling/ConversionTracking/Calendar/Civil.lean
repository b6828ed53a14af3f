import ConversionTracking.Calendar.Fault

/-!
Dates and times of day by their parts, as texts spell them.
-/

namespace ConversionTracking

structure CivilDate where
  year : Nat
  month : Nat
  day : Nat
deriving DecidableEq, Repr

structure ClockTime where
  hour : Nat
  minute : Nat
  second : Nat
  micros : Nat
deriving DecidableEq, Repr

namespace CivilDate

def toDate (civil : CivilDate) : Except CalendarFault Date :=
  if civil.year < 1 ∨ 9999 < civil.year then .error (.yearOutOfRange civil.year)
  else if civil.month < 1 ∨ 12 < civil.month then .error .monthOutOfRange
  else
    match Date.ofCivil? civil.year civil.month civil.day with
    | none => .error .dayOutOfRange
    | some date => .ok date

end CivilDate

namespace ClockTime

open Calendar

def toMicros (time : ClockTime) : Except CalendarFault { micros : Nat // micros < microsPerDay } :=
  if hourOk : time.hour < 24 then
    if minuteOk : time.minute < 60 then
      if secondOk : time.second < 60 then
        if microsOk : time.micros < microsPerSecond then
          .ok ⟨((time.hour * 60 + time.minute) * 60 + time.second) * microsPerSecond + time.micros,
            by simp only [microsPerDay, microsPerSecond] at *; omega⟩
        else .error .secondOutOfRange
      else .error .secondOutOfRange
    else .error .minuteOutOfRange
  else .error .hourOutOfRange

end ClockTime

open Calendar in
def Instant.ofParts (civil : CivilDate) (time : ClockTime) (offset : Option Int) :
    Except CalendarFault Instant := do
  if (offset.getD 0).natAbs ≥ microsPerDay then .error (.offsetTooLarge (offset.getD 0))
  else
    let date ← civil.toDate
    let ⟨micros, micros_lt⟩ ← time.toMicros
    return { date, micros, micros_lt, offset }

end ConversionTracking
