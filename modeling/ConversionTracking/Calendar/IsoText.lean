import ConversionTracking.Calendar.Civil
import ConversionTracking.Number.Digits

/-!
Dates and times in ISO 8601 text: calendar dates and week dates with or without hyphens, then any
one character and a time of day with or without colons, a fraction and an offset.
-/

namespace ConversionTracking

namespace IsoText

def takeDigits? (count : Nat) (chars : List Char) : Option (Nat × List Char) :=
  let taken := chars.take count
  if taken.length = count then
    (taken.mapM asciiDigit?).map fun values => (ofDigitValues values, chars.drop count)
  else none

/-- What comes after the place between two parts of a date, where a hyphen stands if the parts are
separated. -/
def afterJoint? (separated : Bool) (chars : List Char) : Option (List Char) :=
  if separated then
    match chars with
    | '-' :: rest => some rest
    | _ => none
  else some chars

def civilOfNumber (number : Int) : CivilDate :=
  if number < 1 then ⟨1, 0, 0⟩
  else
    let day := number.toNat
    let year := Calendar.yearOfDay day
    let leap := Calendar.isLeapYear year
    let yearDay := day - Calendar.daysBeforeYear year
    let month := Calendar.monthOfYearDay leap yearDay
    ⟨year, month, yearDay - Calendar.daysBeforeMonth leap month⟩

def ofWeek? (year week day : Nat) : Option CivilDate :=
  if week = 0 ∨ week > 53 ∨ (week = 53 ∧ !Calendar.hasLongWeekYear year) ∨ day = 0 ∨ day > 7 then
    none
  else some (civilOfNumber (Calendar.firstMonday year + (week - 1) * 7 + day - 1))

def weekDate? (separated : Bool) (year : Nat) (chars : List Char) : Option CivilDate := do
  let (week, rest) ← takeDigits? 2 chars
  if rest.isEmpty then ofWeek? year week 1
  else
    let (day, _) ← takeDigits? 1 (← afterJoint? separated rest)
    ofWeek? year week day

def monthDate? (separated : Bool) (year : Nat) (chars : List Char) : Option CivilDate := do
  let (month, rest) ← takeDigits? 2 chars
  let (day, rest) ← takeDigits? 2 (← afterJoint? separated rest)
  if rest.isEmpty then some ⟨year, month, day⟩ else none

def civilDate? (chars : List Char) : Option CivilDate := do
  let (year, rest) ← takeDigits? 4 chars
  let separated := rest.head? == some '-'
  let rest := if separated then rest.drop 1 else rest
  if rest.head? == some 'W' then weekDate? separated year (rest.drop 1)
  else monthDate? separated year rest

/-- Where the date ends in a text of a date and a time. A week date without a hyphen after the week
ends after the week when an even number of characters of the text are digits from there on. -/
def separatorIndex (chars : List Char) : Nat :=
  if chars.length = 7 then 7
  else if chars[4]? = some '-' then
    if chars[5]? = some 'W' then
      if chars[8]? = some '-' then
        if (chars[10]?.map isAsciiDigit).getD false then 8 else 10
      else 8
    else 10
  else if chars[4]? = some 'W' then
    let index := 7 + ((chars.drop 7).takeWhile isAsciiDigit).length
    if index < 9 then index else if index % 2 = 0 then 7 else 8
  else 8

private def fraction? (chars : List Char) : Option (Nat × List Char) := do
  let count := min 6 chars.length
  if count = 0 then none
  let (value, rest) ← takeDigits? count chars
  some (value * Nat.pow 10 (6 - count), rest.dropWhile isAsciiDigit)

/-- The two-digit fields of a time, and what follows them. Each field is followed by a colon when the
first is; a fraction may follow any field. One ASCII character after a field is left over, whatever
it is. -/
private def clockFields? (separated : Option Bool) :
    Nat → List Char → Option (List Nat × Nat × List Char)
  | 0, chars => do
      let (micros, rest) ← fraction? chars
      some ([], micros, rest)
  | fields + 1, chars => do
      let (value, rest) ← takeDigits? 2 chars
      let separated := separated.getD (rest.head? == some ':')
      match rest with
      | [] => some ([value], 0, [])
      | mark :: after =>
          if after.isEmpty && mark.toNat < 128 then some ([value], 0, rest)
          else if separated && mark = ':' then
            let (values, micros, tail) ← clockFields? (some separated) fields after
            some (value :: values, micros, tail)
          else if mark = '.' || mark = ',' then
            let (micros, tail) ← fraction? after
            some ([value], micros, tail)
          else if separated then none
          else
            let (values, micros, tail) ← clockFields? (some separated) fields rest
            some (value :: values, micros, tail)

def clockTime? (chars : List Char) : Option (ClockTime × Bool) :=
  (clockFields? none 3 chars).map fun (values, micros, rest) =>
    ({ hour := values[0]?.getD 0, minute := values[1]?.getD 0, second := values[2]?.getD 0, micros },
      !rest.isEmpty)

def clockWithOffset? (chars : List Char) : Option (ClockTime × Option Int) := do
  let isZone (char : Char) : Bool := char = '+' || char = '-' || char = 'Z'
  -- the first character belongs to the time
  let clock := chars.take 1 ++ (chars.drop 1).takeWhile (!isZone ·)
  let zone := chars.drop clock.length
  let (time, leftOver) ← clockTime? clock
  match zone with
  | [] => if leftOver then none else some (time, none)
  | ['Z'] => some (time, some 0)
  | 'Z' :: _ => none
  | sign :: digits =>
      let (offset, leftOver) ← clockTime? digits
      if leftOver then none
      else
        let seconds := offset.hour * 3600 + offset.minute * 60 + offset.second
        -- an offset of less than a second counts as none
        let size : Nat := if seconds = 0 then 0 else seconds * Calendar.microsPerSecond + offset.micros
        some (time, some (if sign = '-' then -(size : Int) else size))

def midnight : ClockTime := ⟨0, 0, 0, 0⟩

def split? (chars : List Char) : Option (CivilDate × ClockTime × Option Int) := do
  if chars.length < 7 then none
  let index := separatorIndex chars
  let date ← civilDate? (chars.take index)
  match chars.drop index with
  | [] => some (date, midnight, none)
  | _ :: time =>
      let (time, offset) ← clockWithOffset? time
      some (date, time, offset)

end IsoText

def Instant.ofIso (text : String) : Except CalendarFault Instant :=
  match IsoText.split? text.toList with
  | none => .error (.notIso text)
  | some (civil, time, offset) => Instant.ofParts civil time offset

end ConversionTracking
