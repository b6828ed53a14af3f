import ConversionTracking.Calendar.DateRange

/-!
The range of a report, from what a request says of its ends.
-/

namespace ConversionTracking

namespace Period

def defaultDays : Int := 30

def given? (text : Option String) : Option String :=
  text.bind fun text => if text.isEmpty then none else some text

def dayBefore (text : String) (days : Int) : Except CalendarFault String := do
  let moment ← Instant.ofIso text
  match moment.addMicros? (-(days * Calendar.microsPerDay)) with
  | some earlier => return earlier.date.text
  | none => .error .outsideCalendar

/-- The range between two ends. A missing end is the current day, and a missing start is thirty days
before the end. -/
def ofEnds (clock : Instant) (start finish : Option String) : Except CalendarFault DateRange :=
  if start.isNone && finish.isNone then DateRange.lastDays (.whole defaultDays) clock
  else do
    let finish := (given? finish).getD clock.date.text
    let start ←
      match given? start with
      | some start => pure start
      | none => dayBefore finish defaultDays
    DateRange.ofTexts start finish

end Period

end ConversionTracking
