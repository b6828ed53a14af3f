import ConversionTracking.Calendar.DateRange

/-!
Moments in a column and the rows of a range. The database keeps a moment as text and compares texts.
A moment that is given is written to the microsecond and without its offset. A row that gives none is
stamped by the clock of the database, to the second.
-/

namespace ConversionTracking

namespace Calendar

def secondsPerDay : Nat := 86400

def timeOfDayText (seconds : Nat) : String :=
  paddedText 2 (seconds / 3600) ++ ":" ++ paddedText 2 (seconds / 60 % 60) ++ ":"
    ++ paddedText 2 (seconds % 60)

end Calendar

open Calendar

namespace Instant

def seconds (moment : Instant) : Nat := moment.micros / microsPerSecond

def columnText (moment : Instant) : String :=
  moment.date.text ++ " " ++ timeOfDayText moment.seconds ++ "."
    ++ paddedText 6 (moment.micros % microsPerSecond)

end Instant

structure Stamp where
  date : Date
  seconds : Nat
  inDay : seconds < secondsPerDay

namespace Stamp

def text (stamp : Stamp) : String := stamp.date.text ++ " " ++ timeOfDayText stamp.seconds

def clockMicros (stamp : Stamp) : Int :=
  (stamp.date.number * microsPerDay + stamp.seconds * microsPerSecond : Nat)

end Stamp

inductive StoredMoment where
  | given (moment : Instant)
  | stamped (stamp : Stamp)

namespace StoredMoment

def text : StoredMoment → String
  | given moment => moment.columnText
  | stamped stamp => stamp.text

def clockMicros : StoredMoment → Int
  | given moment => moment.clockMicros
  | stamped stamp => stamp.clockMicros

end StoredMoment

/-- The database finds the moment of a row between the ends of the range. -/
def DateRange.selects (range : DateRange) (moment : StoredMoment) : Bool :=
  range.start.columnText ≤ moment.text && moment.text ≤ range.finish.columnText

end ConversionTracking
