import ConversionTracking.Number.Digits

/-!
Days of the proleptic Gregorian calendar from the first day of year 1 to the last day of year 9999,
as consecutive numbers, and their years, months and days of the month.
-/

namespace ConversionTracking

namespace Calendar

def isLeapYear (year : Nat) : Bool :=
  year % 4 = 0 && (year % 100 ≠ 0 || year % 400 = 0)

def daysBeforeYear (year : Nat) : Nat :=
  (year - 1) * 365 + (year - 1) / 4 - (year - 1) / 100 + (year - 1) / 400

def daysBeforeMonth (leap : Bool) (month : Nat) : Nat :=
  let extra := if leap then 1 else 0
  match month with
  | 0 | 1 => 0
  | 2 => 31
  | 3 => 59 + extra
  | 4 => 90 + extra
  | 5 => 120 + extra
  | 6 => 151 + extra
  | 7 => 181 + extra
  | 8 => 212 + extra
  | 9 => 243 + extra
  | 10 => 273 + extra
  | 11 => 304 + extra
  | 12 => 334 + extra
  | _ => 365 + extra

def daysInMonth (leap : Bool) (month : Nat) : Nat :=
  daysBeforeMonth leap (month + 1) - daysBeforeMonth leap month

def dayNumber (year month day : Nat) : Nat :=
  daysBeforeYear year + daysBeforeMonth (isLeapYear year) month + day

def yearOfDay (number : Nat) : Nat :=
  let guess := (number - 1) * 400 / 146097 + 1
  if number ≤ daysBeforeYear guess then guess - 1
  else if daysBeforeYear (guess + 1) < number then guess + 1
  else guess

def monthOfYearDay (leap : Bool) (yearDay : Nat) : Nat :=
  ((List.range' 2 11).find? fun next => yearDay ≤ daysBeforeMonth leap next).elim 12 (· - 1)

def lastDayNumber : Nat := 3652059

end Calendar

structure Date where
  number : Nat
  one_le_number : 1 ≤ number
  number_le : number ≤ Calendar.lastDayNumber
deriving DecidableEq

namespace Date

open Calendar

instance : Inhabited Date := ⟨⟨1, by decide, by decide⟩⟩

def ofNumber? (number : Int) : Option Date :=
  if h : 1 ≤ number.toNat ∧ number.toNat ≤ lastDayNumber then some ⟨number.toNat, h.1, h.2⟩
  else none

def ofCivil? (year month day : Nat) : Option Date :=
  if 1 ≤ year ∧ year ≤ 9999 ∧ 1 ≤ month ∧ month ≤ 12 ∧ 1 ≤ day
      ∧ day ≤ daysInMonth (isLeapYear year) month then
    ofNumber? (dayNumber year month day)
  else none

def year (date : Date) : Nat := yearOfDay date.number

def yearDay (date : Date) : Nat := date.number - daysBeforeYear date.year

def month (date : Date) : Nat := monthOfYearDay (isLeapYear date.year) date.yearDay

def day (date : Date) : Nat :=
  date.yearDay - daysBeforeMonth (isLeapYear date.year) date.month

def addDays? (date : Date) (days : Int) : Option Date := ofNumber? (date.number + days)

def text (date : Date) : String :=
  paddedText 4 date.year ++ "-" ++ paddedText 2 date.month ++ "-" ++ paddedText 2 date.day

end Date

namespace Calendar

def weekday (number : Int) : Int := (number + 6) % 7

/-- The number of the first day of a year, or of the leap year before the calendar starts. -/
def firstOfYear (year : Nat) : Int := if year = 0 then -365 else dayNumber year 1 1

/-- The number of the Monday that starts the first week of a year: the week with its first
Thursday. -/
def firstMonday (year : Nat) : Int :=
  let first := firstOfYear year
  let shift := weekday first
  if shift > 3 then first - shift + 7 else first - shift

def hasLongWeekYear (year : Nat) : Bool :=
  let shift := weekday (firstOfYear year)
  shift = 3 || (shift = 2 && isLeapYear year)

end Calendar

end ConversionTracking
