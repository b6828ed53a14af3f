import ConversionTracking.Calendar.StoredMoment
import ConversionTracking.Proofs.Calendar.RangeTexts

/-!
The order of moments in a column. Numbers that are written in equally many digits are in the order of
their texts, and so are dates and times of day whatever follows them. A stamp stands before all moments
that are given in its second, so that a range does not select a stamp of the second it starts with.
-/

namespace ConversionTracking

open Calendar
open Numeral (AreDigits asciiValues)

theorem digit_lt_ten {digit : Char} (isDigit : digit.isDigit = true) :
    digit.toNat - '0'.toNat < 10 := by
  simp only [Char.isDigit, Bool.and_eq_true, decide_eq_true_eq, UInt32.le_iff_toNat_le] at isDigit
  have notAfter : digit.toNat ≤ 57 := isDigit.2
  have zero : '0'.toNat = 48 := rfl
  omega

theorem digit_lt_iff {digit other : Char} (isDigit : digit.isDigit = true)
    (isOther : other.isDigit = true) :
    digit < other ↔ digit.toNat - '0'.toNat < other.toNat - '0'.toNat := by
  simp only [Char.isDigit, Bool.and_eq_true, decide_eq_true_eq, ge_iff_le,
    UInt32.le_iff_toNat_le] at isDigit isOther
  have notBefore : 48 ≤ digit.toNat := isDigit.1
  have otherNotBefore : 48 ≤ other.toNat := isOther.1
  have zero : '0'.toNat = 48 := rfl
  rw [Char.lt_def, UInt32.lt_iff_toNat_lt]
  change digit.toNat < other.toNat ↔ _
  omega

namespace IsoText

def numberAfter (before : Nat) (digits : List Char) : Nat :=
  (asciiValues digits).foldl (fun total digit => total * 10 + digit) before

theorem numberAfter_cons (before : Nat) (digit : Char) (digits : List Char) :
    numberAfter before (digit :: digits) =
      numberAfter (before * 10 + (digit.toNat - '0'.toNat)) digits := by
  simp only [numberAfter, asciiValues, List.map_cons, List.foldl_cons]

theorem numberAfter_lt {digits others : List Char} (sameLength : digits.length = others.length)
    (areDigits : AreDigits digits) {before after : Nat} (isBefore : before < after) :
    numberAfter before digits < numberAfter after others := by
  induction digits generalizing others before after with
  | nil =>
      obtain rfl := List.length_eq_zero_iff.mp sameLength.symm
      exact isBefore
  | cons digit digits ih =>
      obtain ⟨other, others, rfl⟩ := List.exists_cons_of_length_eq_add_one sameLength.symm
      obtain ⟨isDigit, areDigits⟩ := List.forall_mem_cons.mp areDigits
      have small := digit_lt_ten isDigit
      rw [numberAfter_cons, numberAfter_cons]
      exact ih (Nat.succ.inj sameLength) areDigits (by omega)

theorem append_lt_append_iff {digits others : List Char} (sameLength : digits.length = others.length)
    (areDigits : AreDigits digits) (areOthers : AreDigits others) (before : Nat)
    (rest tail : List Char) :
    digits ++ rest < others ++ tail ↔ numberAfter before digits < numberAfter before others ∨
      numberAfter before digits = numberAfter before others ∧ rest < tail := by
  induction digits generalizing others before with
  | nil =>
      obtain rfl := List.length_eq_zero_iff.mp sameLength.symm
      simp
  | cons digit digits ih =>
      obtain ⟨other, others, rfl⟩ := List.exists_cons_of_length_eq_add_one sameLength.symm
      obtain ⟨isDigit, restDigits⟩ := List.forall_mem_cons.mp areDigits
      obtain ⟨isOther, tailDigits⟩ := List.forall_mem_cons.mp areOthers
      have shorter := Nat.succ.inj sameLength
      rw [List.cons_append, List.cons_append, List.cons_lt_cons_iff, numberAfter_cons,
        numberAfter_cons]
      rcases Std.lt_trichotomy digit other with isBefore | rfl | isAfter
      · have smaller := (digit_lt_iff isDigit isOther).mp isBefore
        have isLess := numberAfter_lt shorter restDigits
          (show before * 10 + (digit.toNat - '0'.toNat) < before * 10 + (other.toNat - '0'.toNat) by
            omega)
        exact iff_of_true (.inl isBefore) (.inl isLess)
      · simpa using ih shorter restDigits tailDigits _
      · have smaller := (digit_lt_iff isOther isDigit).mp isAfter
        have isLess := numberAfter_lt shorter.symm tailDigits
          (show before * 10 + (other.toNat - '0'.toNat) < before * 10 + (digit.toNat - '0'.toNat) by
            omega)
        refine iff_of_false ?_ (by omega)
        rintro (isBefore | ⟨rfl, _⟩)
        · have notSmaller := (digit_lt_iff isDigit isOther).mp isBefore
          omega
        · exact absurd smaller (Nat.lt_irrefl _)

theorem Writes.append_lt_append_iff {width number other : Nat} {digits others : List Char}
    (isNumber : Writes width digits number) (isOther : Writes width others other)
    (rest tail : List Char) :
    digits ++ rest < others ++ tail ↔ number < other ∨ number = other ∧ rest < tail := by
  rw [← isNumber.value, ← isOther.value]
  exact IsoText.append_lt_append_iff (isNumber.width.trans isOther.width.symm) isNumber.areDigits
    isOther.areDigits 0 rest tail

end IsoText

namespace Date

variable (date other : Date)

theorem number_lt_iff :
    date.number < other.number ↔ date.year < other.year ∨ date.year = other.year ∧
      (date.month < other.month ∨ date.month = other.month ∧ date.day < other.day) := by
  have ordered : ∀ date other : Date, (date.year < other.year ∨ date.year = other.year ∧
      (date.month < other.month ∨ date.month = other.month ∧ date.day < other.day)) →
        date.number < other.number := by
    rintro date other (earlierYear | ⟨sameYear, earlierMonth | ⟨sameMonth, earlierDay⟩⟩)
    · have ends := daysBeforeYear_mono (show date.year + 1 ≤ other.year from earlierYear)
      have inYear := date.year_spec.2
      have inOther := other.year_spec.1
      omega
    · have ends := daysBeforeMonth_mono (isLeapYear date.year)
        (show date.month + 1 ≤ other.month from earlierMonth)
      have inMonth := date.isIn_month.2
      have inOther := other.isIn_month.1
      rw [← sameYear] at inOther
      simp only [dayNumber] at inMonth inOther
      omega
    · rw [date.number_eq, other.number_eq, sameYear, sameMonth, dayNumber_add_day,
        dayNumber_add_day _ _ other.day]
      omega
  refine ⟨fun isBefore => ?_, ordered date other⟩
  by_contra notOrdered
  have number := date.number_eq
  have otherNumber := other.number_eq
  by_cases same : date.year = other.year ∧ date.month = other.month ∧ date.day = other.day
  · rw [same.1, same.2.1, same.2.2, ← otherNumber] at number
    omega
  · have isAfter := ordered other date (by omega)
    omega

theorem writes_parts : IsoText.Writes 4 (Numeral.padded 4 date.year) date.year ∧
    IsoText.Writes 2 (Numeral.padded 2 date.month) date.month ∧
    IsoText.Writes 2 (Numeral.padded 2 date.day) date.day := by
  have year := date.year_bounds
  have month := date.month_bounds
  have day := date.day_bounds
  have short := daysInMonth_bounds (isLeapYear date.year) month
  exact ⟨IsoText.writes_padded (by decide) (by omega), IsoText.writes_padded (by decide) (by omega),
    IsoText.writes_padded (by decide) (by omega)⟩

theorem text_append_lt_iff (rest tail : List Char) :
    date.text.toList ++ rest < other.text.toList ++ tail ↔
      date.number < other.number ∨ date.number = other.number ∧ rest < tail := by
  obtain ⟨isYear, isMonth, isDay⟩ := date.writes_parts
  obtain ⟨otherYear, otherMonth, otherDay⟩ := other.writes_parts
  have same_iff : date.number = other.number ↔
      date.year = other.year ∧ date.month = other.month ∧ date.day = other.day := by
    constructor
    · intro same
      rw [eq_of_number same]
      exact ⟨rfl, rfl, rfl⟩
    · rintro ⟨sameYear, sameMonth, sameDay⟩
      rw [date.number_eq, other.number_eq, sameYear, sameMonth, sameDay]
  rw [number_lt_iff, same_iff, toList_text, toList_text]
  simp only [IsoText.joint, if_true, List.append_assoc, List.cons_append, List.nil_append,
    isYear.append_lt_append_iff otherYear, isMonth.append_lt_append_iff otherMonth,
    isDay.append_lt_append_iff otherDay, List.cons_lt_cons_iff, Std.lt_irrefl, false_or, true_and]
  tauto

end Date

namespace Calendar

theorem toList_timeOfDayText (seconds : Nat) : (timeOfDayText seconds).toList =
    Numeral.padded 2 (seconds / 3600) ++ (':' :: (Numeral.padded 2 (seconds / 60 % 60) ++
      (':' :: Numeral.padded 2 (seconds % 60)))) := by
  simp [timeOfDayText, paddedText, Numeral.padded]

theorem timeOfDayText_append_lt_iff {seconds other : Nat} (inDay : seconds < secondsPerDay)
    (otherInDay : other < secondsPerDay) (rest tail : List Char) :
    (timeOfDayText seconds).toList ++ rest < (timeOfDayText other).toList ++ tail ↔
      seconds < other ∨ seconds = other ∧ rest < tail := by
  have writes : ∀ seconds < secondsPerDay,
      IsoText.Writes 2 (Numeral.padded 2 (seconds / 3600)) (seconds / 3600) ∧
        IsoText.Writes 2 (Numeral.padded 2 (seconds / 60 % 60)) (seconds / 60 % 60) ∧
        IsoText.Writes 2 (Numeral.padded 2 (seconds % 60)) (seconds % 60) := by
    intro seconds inDay
    rw [secondsPerDay] at inDay
    exact ⟨IsoText.writes_padded (by decide) (by omega),
      IsoText.writes_padded (by decide) (by omega), IsoText.writes_padded (by decide) (by omega)⟩
  obtain ⟨isHour, isMinute, isSecond⟩ := writes seconds inDay
  obtain ⟨otherHour, otherMinute, otherSecond⟩ := writes other otherInDay
  rw [toList_timeOfDayText, toList_timeOfDayText]
  simp only [List.append_assoc, List.cons_append, isHour.append_lt_append_iff otherHour,
    isMinute.append_lt_append_iff otherMinute, isSecond.append_lt_append_iff otherSecond,
    List.cons_lt_cons_iff, Std.lt_irrefl, false_or, true_and]
  have hour := Nat.div_div_eq_div_mul seconds 60 60
  have hourOfOther := Nat.div_div_eq_div_mul other 60 60
  by_cases isLess : rest < tail
  · simp only [isLess, and_true]
    omega
  · simp only [isLess, and_false, or_false]
    omega

end Calendar

namespace Instant

variable (moment other : Instant)

theorem seconds_lt : moment.seconds < secondsPerDay := by
  have inDay := moment.micros_lt
  rw [microsPerDay, Nat.mul_comm] at inDay
  exact Nat.div_lt_of_lt_mul inDay

theorem toList_columnText : moment.columnText.toList =
    moment.date.text.toList ++ (' ' :: ((timeOfDayText moment.seconds).toList ++
      ('.' :: Numeral.padded 6 (moment.micros % microsPerSecond)))) := by
  simp [columnText, paddedText, Numeral.padded]

theorem columnText_lt_iff :
    moment.columnText < other.columnText ↔ moment.clockMicros < other.clockMicros := by
  have writes : ∀ moment : Instant, IsoText.Writes 6
      (Numeral.padded 6 (moment.micros % microsPerSecond) ++ [])
        (moment.micros % microsPerSecond) := by
    intro moment
    rw [List.append_nil]
    exact IsoText.writes_padded (by decide) (Nat.mod_lt _ (by decide))
  have micros_iff := (writes moment).append_lt_append_iff (writes other) [] []
  simp only [List.append_nil, Std.lt_irrefl, and_false, or_false] at micros_iff
  rw [String.lt_iff, toList_columnText, toList_columnText, Date.text_append_lt_iff]
  simp only [List.cons_lt_cons_iff, Std.lt_irrefl, false_or, true_and,
    timeOfDayText_append_lt_iff moment.seconds_lt other.seconds_lt, micros_iff]
  have inDay := moment.micros_lt
  have otherInDay := other.micros_lt
  simp only [clockMicros, seconds, microsPerDay, microsPerSecond] at *
  omega

end Instant

namespace Stamp

variable (stamp : Stamp) (moment : Instant)

theorem toList_text : stamp.text.toList =
    stamp.date.text.toList ++ (' ' :: ((timeOfDayText stamp.seconds).toList ++ [])) := by
  simp [text]

theorem text_lt_columnText_iff :
    stamp.text < moment.columnText ↔ stamp.clockMicros ≤ moment.clockMicros := by
  have inDay := stamp.inDay
  have momentInDay := moment.micros_lt
  rw [String.lt_iff, toList_text, Instant.toList_columnText, Date.text_append_lt_iff]
  simp only [List.cons_lt_cons_iff, Std.lt_irrefl, false_or, true_and,
    timeOfDayText_append_lt_iff inDay moment.seconds_lt, List.nil_lt_cons, and_true]
  simp only [clockMicros, Instant.clockMicros, Instant.seconds, secondsPerDay, microsPerDay,
    microsPerSecond] at *
  omega

theorem columnText_lt_text_iff :
    moment.columnText < stamp.text ↔ moment.clockMicros < stamp.clockMicros := by
  have inDay := stamp.inDay
  have momentInDay := moment.micros_lt
  rw [String.lt_iff, toList_text, Instant.toList_columnText, Date.text_append_lt_iff]
  simp only [List.cons_lt_cons_iff, Std.lt_irrefl, false_or, true_and,
    timeOfDayText_append_lt_iff moment.seconds_lt inDay, List.not_lt_nil, and_false, or_false]
  simp only [clockMicros, Instant.clockMicros, Instant.seconds, secondsPerDay, microsPerDay,
    microsPerSecond] at *
  omega

end Stamp

/-- The moment was stamped as the clock read what the other one is. -/
def StoredMoment.isStampOf (moment : StoredMoment) (start : Instant) : Bool :=
  match moment with
  | given _ => false
  | stamped stamp => stamp.clockMicros == start.clockMicros

/-- The moments between the ends of a range are selected, but for stamps of its start: a stamp has a
shorter text than the start of the range and stands before it. -/
theorem DateRange.selects_iff (range : DateRange) (moment : StoredMoment) :
    range.selects moment = true ↔ range.start.clockMicros ≤ moment.clockMicros ∧
      moment.clockMicros ≤ range.finish.clockMicros ∧ moment.isStampOf range.start = false := by
  rw [selects, Bool.and_eq_true, decide_eq_true_eq, decide_eq_true_eq, ← String.not_lt,
    ← String.not_lt]
  cases moment with
  | given moment =>
      simp only [StoredMoment.text, StoredMoment.clockMicros, StoredMoment.isStampOf,
        Instant.columnText_lt_iff, and_true]
      omega
  | stamped stamp =>
      simp only [StoredMoment.text, StoredMoment.clockMicros, StoredMoment.isStampOf,
        Stamp.text_lt_columnText_iff, Stamp.columnText_lt_text_iff, beq_eq_false_iff_ne]
      omega

theorem StoredMoment.clockMicros_of_isStampOf {moment : StoredMoment} {start : Instant}
    (isStamp : moment.isStampOf start = true) : moment.clockMicros = start.clockMicros := by
  cases moment with
  | given moment => contradiction
  | stamped stamp => exact eq_of_beq isStamp

namespace DateRange.Joins

variable {earlier range joined : DateRange} (joins : earlier.Joins range joined)

include joins

theorem selects_of_earlier {moment : StoredMoment} (inEarlier : earlier.selects moment = true) :
    joined.selects moment = true := by
  have adjacent := joins.adjacent
  have ordered := joins.ordered
  rw [DateRange.selects_iff] at inEarlier ⊢
  rw [joins.start, joins.finish]
  exact ⟨inEarlier.1, by omega, inEarlier.2.2⟩

theorem selects_of_range {moment : StoredMoment} (inRange : range.selects moment = true) :
    joined.selects moment = true := by
  have adjacent := joins.adjacent
  have earlierOrdered := joins.earlierOrdered
  rw [DateRange.selects_iff] at inRange ⊢
  rw [joins.start, joins.finish]
  refine ⟨by omega, inRange.2.1, ?_⟩
  by_contra isFirst
  have atFirst := StoredMoment.clockMicros_of_isStampOf ((Bool.not_eq_false _).mp isFirst)
  omega

theorem selects_of_seam {moment : StoredMoment} (isSeam : moment.isStampOf range.start = true) :
    joined.selects moment = true := by
  have adjacent := joins.adjacent
  have earlierOrdered := joins.earlierOrdered
  have ordered := joins.ordered
  have atStart := StoredMoment.clockMicros_of_isStampOf isSeam
  rw [DateRange.selects_iff, joins.start, joins.finish]
  refine ⟨by omega, by omega, ?_⟩
  by_contra isFirst
  have atFirst := StoredMoment.clockMicros_of_isStampOf ((Bool.not_eq_false _).mp isFirst)
  omega

theorem not_selects_of_earlier {moment : StoredMoment} (inEarlier : earlier.selects moment = true) :
    range.selects moment = false := by
  have adjacent := joins.adjacent
  rw [DateRange.selects_iff] at inEarlier
  rw [← Bool.not_eq_true, DateRange.selects_iff]
  omega

theorem isStampOf_of_missed {moment : StoredMoment} (inJoined : joined.selects moment = true)
    (notEarlier : earlier.selects moment = false) (notInRange : range.selects moment = false) :
    moment.isStampOf range.start = true := by
  have adjacent := joins.adjacent
  rw [DateRange.selects_iff, joins.start, joins.finish] at inJoined
  obtain ⟨afterStart, beforeFinish, notFirst⟩ := inJoined
  rw [← Bool.not_eq_true, DateRange.selects_iff, notFirst] at notEarlier
  rw [← Bool.not_eq_true, DateRange.selects_iff] at notInRange
  by_contra notSeam
  rw [Bool.not_eq_true] at notSeam
  have afterEarlier : ¬moment.clockMicros ≤ earlier.finish.clockMicros := fun inEarlier =>
    notEarlier ⟨afterStart, inEarlier, rfl⟩
  exact notInRange ⟨by omega, beforeFinish, notSeam⟩

theorem selects_iff (moment : StoredMoment) :
    joined.selects moment = true ↔
      (earlier.selects moment = true ∧ range.selects moment = false) ∨
        (earlier.selects moment = false ∧ range.selects moment = true) ∨
        (earlier.selects moment = false ∧ range.selects moment = false ∧
          moment.isStampOf range.start = true) := by
  constructor
  · intro inJoined
    cases inEarlier : earlier.selects moment with
    | true => exact .inl ⟨rfl, joins.not_selects_of_earlier inEarlier⟩
    | false =>
        cases inRange : range.selects moment with
        | true => exact .inr (.inl ⟨rfl, rfl⟩)
        | false =>
            exact .inr (.inr ⟨rfl, rfl, joins.isStampOf_of_missed inJoined inEarlier inRange⟩)
  · rintro (⟨inEarlier, _⟩ | ⟨_, inRange⟩ | ⟨_, _, isSeam⟩)
    · exact joins.selects_of_earlier inEarlier
    · exact joins.selects_of_range inRange
    · exact joins.selects_of_seam isSeam

end DateRange.Joins

end ConversionTracking
