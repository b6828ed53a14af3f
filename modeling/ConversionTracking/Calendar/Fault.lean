import ConversionTracking.Calendar.Instant
import ConversionTracking.Text.Quoted

/-!
What can be wrong with dates: texts that name none, ranges that end before they start, and results
outside the calendar.
-/

namespace ConversionTracking

inductive CalendarFault where
  | notIso (text : String)
  | yearOutOfRange (year : Nat)
  | monthOutOfRange
  | dayOutOfRange
  | hourOutOfRange
  | minuteOutOfRange
  | secondOutOfRange
  | offsetTooLarge (offset : Int)
  | startAfterEnd (start finish : Instant)
  | mixedOffsets
  | notANumber
  | infiniteDuration
  | durationTooLarge (days : Int)
  | durationBeyondWord
  | outsideCalendar
deriving DecidableEq

namespace CalendarFault

def spanText (micros : Int) : String :=
  let days := micros / Calendar.microsPerDay
  let rest := (micros % Calendar.microsPerDay).toNat
  let parts :=
    [("days", days), ("seconds", (rest / Calendar.microsPerSecond : Nat)),
      ("microseconds", (rest % Calendar.microsPerSecond : Nat))]
  let shown := parts.filterMap fun (name, amount) =>
    if amount = 0 then none else some (name ++ "=" ++ intText amount)
  "datetime.timedelta(" ++ (if shown.isEmpty then "0" else ", ".intercalate shown) ++ ")"

def message : CalendarFault → String
  | .notIso text => "Invalid isoformat string: " ++ quotedText text
  | .yearOutOfRange year => "year " ++ decimalText year ++ " is out of range"
  | .monthOutOfRange => "month must be in 1..12"
  | .dayOutOfRange => "day is out of range for month"
  | .hourOutOfRange => "hour must be in 0..23"
  | .minuteOutOfRange => "minute must be in 0..59"
  | .secondOutOfRange => "second must be in 0..59"
  | .offsetTooLarge offset =>
      "offset must be a timedelta strictly between -timedelta(hours=24) and timedelta(hours=24), not "
        ++ spanText offset ++ "."
  | .startAfterEnd start finish =>
      "Date range start " ++ start.text ++ " is after end " ++ finish.text
  | .mixedOffsets => "can't compare offset-naive and offset-aware datetimes"
  | .notANumber => "cannot convert float NaN to integer"
  | .infiniteDuration => "cannot convert float infinity to integer"
  | .durationTooLarge days => "days=" ++ intText days ++ "; must have magnitude <= 999999999"
  | .durationBeyondWord => "Python int too large to convert to C int"
  | .outsideCalendar => "date value out of range"

/-- The date or range that was asked for does not exist, as opposed to a result that falls outside
the calendar. -/
def isRefusal : CalendarFault → Bool
  | .infiniteDuration | .durationTooLarge _ | .durationBeyondWord | .outsideCalendar
  | .mixedOffsets => false
  | _ => true

end CalendarFault

end ConversionTracking
