import ConversionTracking.Proofs.Calendar.Weeks
import ConversionTracking.Proofs.Number.Written
import Mathlib.Algebra.Group.Nat.Defs
import Mathlib.Data.List.Basic

/-!
Texts that spell dates. A date is spelled by its month and day of the month, or by its week and day of
the week, with hyphens or without. Such a text is read as the start of that date, a time after it does
not change the date, and every text that is read starts with a spelling of its date.
-/

namespace ConversionTracking

open Numeral (AreDigits asciiValues)

theorem asciiDigit?_eq_some_iff (char : Char) (value : Nat) :
    asciiDigit? char = some value ↔ char.isDigit = true ∧ char.toNat - '0'.toNat = value := by
  have sameRange : ('0' ≤ char ∧ char ≤ '9') ↔ char.isDigit = true := by
    simp [Char.isDigit, Char.le_def]
  simp only [asciiDigit?, sameRange]
  split <;> simp [*]

theorem mapM_asciiDigit?_eq_some_iff (chars : List Char) (values : List Nat) :
    chars.mapM asciiDigit? = some values ↔ AreDigits chars ∧ asciiValues chars = values := by
  induction chars generalizing values with
  | nil => simp [AreDigits, asciiValues]
  | cons char rest ih =>
      rw [List.mapM_cons]
      simp only [Option.bind_eq_bind, Option.bind_eq_some_iff, asciiDigit?_eq_some_iff, ih, pure,
        Option.some.injEq, AreDigits, List.forall_mem_cons, asciiValues, List.map_cons]
      constructor
      · rintro ⟨value, ⟨isDigit, isValue⟩, others, ⟨areDigits, areValues⟩, rfl⟩
        exact ⟨⟨isDigit, areDigits⟩, by rw [isValue, areValues]⟩
      · rintro ⟨⟨isDigit, areDigits⟩, rfl⟩
        exact ⟨_, ⟨isDigit, rfl⟩, _, ⟨areDigits, rfl⟩, rfl⟩

namespace IsoText

structure Writes (width : Nat) (digits : List Char) (value : Nat) : Prop where
  width : digits.length = width
  areDigits : AreDigits digits
  value : ofDigitValues (asciiValues digits) = value

theorem takeDigits?_eq_some_iff (count : Nat) (chars : List Char) (value : Nat) (rest : List Char) :
    takeDigits? count chars = some (value, rest) ↔
      ∃ digits, Writes count digits value ∧ chars = digits ++ rest := by
  rw [takeDigits?]
  constructor
  · intro taken
    split at taken
    · rename_i isLong
      obtain ⟨values, areValues, same⟩ := Option.map_eq_some_iff.mp taken
      obtain ⟨rfl, rfl⟩ := Prod.mk.inj same
      obtain ⟨areDigits, rfl⟩ := (mapM_asciiDigit?_eq_some_iff _ _).mp areValues
      exact ⟨chars.take count, ⟨isLong, areDigits, rfl⟩, (List.take_append_drop count chars).symm⟩
    · contradiction
  · rintro ⟨digits, ⟨rfl, areDigits, rfl⟩, rfl⟩
    rw [List.take_left, List.drop_left, if_pos rfl,
      (mapM_asciiDigit?_eq_some_iff _ _).mpr ⟨areDigits, rfl⟩]
    rfl

theorem ofDigitValues_zeros (count : Nat) (values : List Nat) :
    ofDigitValues (List.replicate count 0 ++ values) = ofDigitValues values := by
  induction count with
  | zero => rfl
  | succ count ih => simpa [List.replicate_succ, ofDigitValues] using ih

theorem writes_padded {width value : Nat} (positive : 0 < width) (fits : value < 10 ^ width) :
    Writes width (Numeral.padded width value) value where
  width := by
    have short := (Nat.length_toDigits_le_iff (by decide) positive).mpr fits
    rw [Numeral.padded, List.length_append, List.length_replicate, decimalDigits]
    omega
  areDigits := Numeral.areDigits_padded width value
  value := by
    have zeros (count : Nat) : asciiValues (List.replicate count '0') = List.replicate count 0 := by
      simp [asciiValues]
    have split : asciiValues (Numeral.padded width value) =
        List.replicate (width - (decimalDigits value).length) 0 ++
          asciiValues (decimalDigits value) := by
      rw [← zeros, Numeral.padded, asciiValues, List.map_append, asciiValues, asciiValues]
    rw [split, ofDigitValues_zeros, Numeral.ofDigitValues_decimalDigits]

def joint (separated : Bool) : List Char := if separated then ['-'] else []

theorem afterJoint?_eq_some_iff (separated : Bool) (chars rest : List Char) :
    afterJoint? separated chars = some rest ↔ chars = joint separated ++ rest := by
  cases separated with
  | false => simp [afterJoint?, joint]
  | true =>
      unfold afterJoint?
      rw [joint, if_pos rfl, if_pos rfl]
      split
      · simp
      · rename_i notHyphen
        exact iff_of_false (by simp) fun same => notHyphen rest same

theorem monthDate?_eq_some_iff (separated : Bool) (year : Nat) (chars : List Char)
    (civil : CivilDate) :
    monthDate? separated year chars = some civil ↔
      ∃ monthText month dayText day, Writes 2 monthText month ∧ Writes 2 dayText day ∧
        chars = monthText ++ (joint separated ++ dayText) ∧ civil = ⟨year, month, day⟩ := by
  simp only [monthDate?, Option.bind_eq_bind, Option.bind_eq_some_iff, Prod.exists,
    takeDigits?_eq_some_iff, afterJoint?_eq_some_iff]
  constructor
  · rintro ⟨month, _, ⟨monthText, isMonth, rfl⟩, _, rfl, day, rest, ⟨dayText, isDay, rfl⟩, atEnd⟩
    split at atEnd
    · rename_i isEmpty
      obtain rfl := List.isEmpty_iff.mp isEmpty
      rw [List.append_nil]
      exact ⟨monthText, month, dayText, day, isMonth, isDay, rfl, (Option.some.inj atEnd).symm⟩
    · contradiction
  · rintro ⟨monthText, month, dayText, day, isMonth, isDay, rfl, rfl⟩
    exact ⟨month, _, ⟨monthText, isMonth, rfl⟩, _, rfl, day, [],
      ⟨dayText, isDay, (List.append_nil dayText).symm⟩, rfl⟩

theorem weekDate?_eq_some_iff (separated : Bool) (year : Nat) (chars : List Char)
    (civil : CivilDate) :
    weekDate? separated year chars = some civil ↔
      ∃ weekText week rest, Writes 2 weekText week ∧ chars = weekText ++ rest ∧
        ((rest = [] ∧ ofWeek? year week 1 = some civil) ∨
          ∃ dayText day tail, Writes 1 dayText day ∧
            rest = joint separated ++ (dayText ++ tail) ∧ ofWeek? year week day = some civil) := by
  simp only [weekDate?, Option.bind_eq_bind, Option.bind_eq_some_iff, Prod.exists,
    takeDigits?_eq_some_iff]
  constructor
  · rintro ⟨week, rest, ⟨weekText, isWeek, rfl⟩, isCivil⟩
    refine ⟨weekText, week, rest, isWeek, rfl, ?_⟩
    split at isCivil
    · rename_i isEmpty
      exact Or.inl ⟨List.isEmpty_iff.mp isEmpty, isCivil⟩
    · simp only [Option.bind_eq_some_iff, Prod.exists, takeDigits?_eq_some_iff,
        afterJoint?_eq_some_iff] at isCivil
      obtain ⟨_, rfl, day, tail, ⟨dayText, isDay, rfl⟩, isCivil⟩ := isCivil
      exact Or.inr ⟨dayText, day, tail, isDay, rfl, isCivil⟩
  · rintro ⟨weekText, week, rest, isWeek, rfl, ⟨rfl, isCivil⟩ |
      ⟨dayText, day, tail, isDay, rfl, isCivil⟩⟩
    · exact ⟨week, [], ⟨weekText, isWeek, rfl⟩, isCivil⟩
    · refine ⟨week, _, ⟨weekText, isWeek, rfl⟩, ?_⟩
      obtain ⟨digit, rfl⟩ := List.length_eq_one_iff.mp isDay.width
      rw [if_neg (by simp)]
      simp only [Option.bind_eq_some_iff, Prod.exists, takeDigits?_eq_some_iff,
        afterJoint?_eq_some_iff]
      exact ⟨_, rfl, day, tail, ⟨[digit], isDay, rfl⟩, isCivil⟩

theorem ne_of_isDigit {digit char : Char} (isDigit : digit.isDigit = true)
    (noDigit : char.isDigit = false) : digit ≠ char := by
  rintro rfl
  rw [isDigit] at noDigit
  contradiction

theorem Writes.head?_ne {width value : Nat} {digits : List Char} (written : Writes width digits value)
    (positive : 0 < width) (rest : List Char) {char : Char} (noDigit : char.isDigit = false) :
    (digits ++ rest).head? ≠ some char := by
  have given := written.width
  cases digits with
  | nil => exact absurd given (Nat.ne_of_lt positive)
  | cons first others =>
      have isDigit := written.areDigits first List.mem_cons_self
      exact fun same => ne_of_isDigit isDigit noDigit (Option.some.inj same)

def GoesOn (separated : Bool) (year : Nat) (chars : List Char) (civil : CivilDate) : Prop :=
  (∃ week, chars = 'W' :: week ∧ weekDate? separated year week = some civil) ∨
    monthDate? separated year chars = some civil

theorem head?_ne_of_monthDate? {separated : Bool} {year : Nat} {chars : List Char}
    {civil : CivilDate} (isDate : monthDate? separated year chars = some civil) {char : Char}
    (noDigit : char.isDigit = false) : chars.head? ≠ some char := by
  obtain ⟨monthText, month, dayText, day, isMonth, _, rfl, _⟩ :=
    (monthDate?_eq_some_iff _ _ _ _).mp isDate
  exact isMonth.head?_ne (by decide) _ noDigit

theorem civilDate?_eq_some_iff (chars : List Char) (civil : CivilDate) :
    civilDate? chars = some civil ↔
      ∃ separated yearText year rest, Writes 4 yearText year ∧
        chars = yearText ++ (joint separated ++ rest) ∧ GoesOn separated year rest civil := by
  simp only [civilDate?, Option.bind_eq_bind, Option.bind_eq_some_iff, Prod.exists,
    takeDigits?_eq_some_iff]
  constructor
  · rintro ⟨year, rest, ⟨yearText, isYear, rfl⟩, isCivil⟩
    obtain ⟨separated, isSeparated⟩ : ∃ separated, (rest.head? == some '-') = separated := ⟨_, rfl⟩
    obtain ⟨after, whole, isAfter⟩ : ∃ after, rest = joint separated ++ after ∧
        (if separated then rest.drop 1 else rest) = after := by
      cases separated with
      | false => exact ⟨rest, rfl, rfl⟩
      | true =>
          obtain ⟨after, rfl⟩ := List.head?_eq_some_iff.mp (eq_of_beq isSeparated)
          exact ⟨after, rfl, rfl⟩
    rw [isSeparated, isAfter] at isCivil
    refine ⟨separated, yearText, year, after, isYear, by rw [whole], ?_⟩
    split at isCivil
    · rename_i isMarked
      obtain ⟨week, rfl⟩ := List.head?_eq_some_iff.mp (eq_of_beq isMarked)
      exact Or.inl ⟨week, rfl, isCivil⟩
    · exact Or.inr isCivil
  · rintro ⟨separated, yearText, year, rest, isYear, rfl, goesOn⟩
    refine ⟨year, _, ⟨yearText, isYear, rfl⟩, ?_⟩
    have isSeparated : ((joint separated ++ rest).head? == some '-') = separated := by
      cases separated with
      | true => rfl
      | false =>
          refine beq_eq_false_iff_ne.mpr ?_
          rcases goesOn with ⟨week, rfl, _⟩ | isDate
          · simp [joint]
          · exact head?_ne_of_monthDate? isDate rfl
    have isAfter : (if separated then (joint separated ++ rest).drop 1 else joint separated ++ rest) =
        rest := by
      cases separated <;> rfl
    rw [isSeparated, isAfter]
    rcases goesOn with ⟨week, rfl, isCivil⟩ | isCivil
    · exact isCivil
    · rw [if_neg]
      · exact isCivil
      · exact fun isMarked => head?_ne_of_monthDate? isCivil rfl (eq_of_beq isMarked)

end IsoText

/-- The characters spell the date: by its month and the day of the month, or by its week and the day
of the week, which is Monday if none is given. -/
inductive Date.IsSpelledBy (date : Date) : List Char → Prop
  | month (separated : Bool) {yearText monthText dayText : List Char}
      (isYear : IsoText.Writes 4 yearText date.year)
      (isMonth : IsoText.Writes 2 monthText date.month)
      (isDay : IsoText.Writes 2 dayText date.day) :
      IsSpelledBy date (yearText ++ (IsoText.joint separated ++
        (monthText ++ (IsoText.joint separated ++ dayText))))
  | week (separated : Bool) {yearText weekText : List Char} {year week : Nat}
      (isYear : IsoText.Writes 4 yearText year) (isWeek : IsoText.Writes 2 weekText week)
      (isMonday : date.IsWeekDay year week 1) :
      IsSpelledBy date (yearText ++ (IsoText.joint separated ++ 'W' :: weekText))
  | weekDay (separated : Bool) {yearText weekText dayText : List Char} {year week day : Nat}
      (isYear : IsoText.Writes 4 yearText year) (isWeek : IsoText.Writes 2 weekText week)
      (isDay : IsoText.Writes 1 dayText day) (isWeekDay : date.IsWeekDay year week day) :
      IsSpelledBy date (yearText ++ (IsoText.joint separated ++
        'W' :: (weekText ++ (IsoText.joint separated ++ dayText))))

namespace IsoText

def dateLimit (chars : List Char) : Nat := if chars[4]? = some 'W' then 8 else 10

variable {date : Date} {chars rest : List Char}

theorem civilDate?_of_isSpelledBy (spelled : date.IsSpelledBy chars) :
    civilDate? chars = some date.civil := by
  rw [civilDate?_eq_some_iff]
  cases spelled with
  | month separated isYear isMonth isDay =>
      exact ⟨separated, _, _, _, isYear, rfl, Or.inr ((monthDate?_eq_some_iff _ _ _ _).mpr
        ⟨_, _, _, _, isMonth, isDay, rfl, rfl⟩)⟩
  | week separated isYear isWeek isMonday =>
      have isCivil := (ofWeek?_eq_civil_iff _ _ _ _).mpr isMonday
      exact ⟨separated, _, _, _, isYear, rfl, Or.inl ⟨_, rfl, (weekDate?_eq_some_iff _ _ _ _).mpr
        ⟨_, _, [], isWeek, (List.append_nil _).symm, Or.inl ⟨rfl, isCivil⟩⟩⟩⟩
  | weekDay separated isYear isWeek isDay isWeekDay =>
      have isCivil := (ofWeek?_eq_civil_iff _ _ _ _).mpr isWeekDay
      refine ⟨separated, _, _, _, isYear, rfl, Or.inl ⟨_, rfl, (weekDate?_eq_some_iff _ _ _ _).mpr
        ⟨_, _, _, isWeek, rfl, Or.inr ⟨_, _, [], isDay, ?_, isCivil⟩⟩⟩⟩
      rw [List.append_nil]

theorem dateLimit_week (separated : Bool) {yearText : List Char} {year : Nat}
    (isYear : Writes 4 yearText year) (rest : List Char) :
    dateLimit (yearText ++ (joint separated ++ 'W' :: rest)) = 8 + 2 * (joint separated).length := by
  obtain ⟨first, second, third, fourth, rfl⟩ := List.length_eq_four.mp isYear.width
  cases separated <;> rfl

theorem isSpelledBy_of_civilDate? (isRead : civilDate? chars = some date.civil)
    (isShort : chars.length ≤ dateLimit chars) : date.IsSpelledBy chars := by
  obtain ⟨separated, yearText, year, _, isYear, rfl, ⟨_, rfl, isDate⟩ | isDate⟩ :=
    (civilDate?_eq_some_iff _ _).mp isRead
  · obtain ⟨weekText, week, _, isWeek, rfl, ⟨rfl, isCivil⟩ | ⟨dayText, day, tail, isDay, rfl, isCivil⟩⟩ :=
      (weekDate?_eq_some_iff _ _ _ _).mp isDate
    · rw [List.append_nil]
      exact .week separated isYear isWeek ((ofWeek?_eq_civil_iff _ _ _ _).mp isCivil)
    · obtain rfl : tail = [] := by
        have widths := And.intro isYear.width (And.intro isWeek.width isDay.width)
        rw [dateLimit_week separated isYear] at isShort
        simp only [List.length_append, List.length_cons] at isShort
        exact List.length_eq_zero_iff.mp (by omega)
      rw [List.append_nil]
      exact .weekDay separated isYear isWeek isDay ((ofWeek?_eq_civil_iff _ _ _ _).mp isCivil)
  · obtain ⟨monthText, month, dayText, day, isMonth, isDay, rfl, same⟩ :=
      (monthDate?_eq_some_iff _ _ _ _).mp isDate
    obtain ⟨rfl, rfl, rfl⟩ := CivilDate.mk.inj same
    exact .month separated isYear isMonth isDay

theorem separatorIndex_bounds (chars : List Char) :
    7 ≤ separatorIndex chars ∧ separatorIndex chars ≤ dateLimit chars := by
  unfold separatorIndex dateLimit
  split
  · split <;> omega
  · split
    · rename_i isHyphen
      have notWeek : chars[4]? ≠ some 'W' := by
        rw [isHyphen]
        decide
      rw [if_neg notWeek]
      split
      · split
        · split <;> omega
        · omega
      · omega
    · split
      · dsimp only
        split
        · omega
        · split <;> omega
      · omega

theorem dateLimit_take {count : Nat} (long : 4 < count) (chars : List Char) :
    dateLimit (chars.take count) = dateLimit chars := by
  rw [dateLimit, dateLimit, List.getElem?_take_of_lt long]

theorem civilDate?_take_eq_civil_iff :
    civilDate? (chars.take (separatorIndex chars)) = some date.civil ↔
      date.IsSpelledBy (chars.take (separatorIndex chars)) := by
  refine ⟨fun isRead => isSpelledBy_of_civilDate? isRead ?_, civilDate?_of_isSpelledBy⟩
  obtain ⟨isLong, isShort⟩ := separatorIndex_bounds chars
  rw [dateLimit_take (by omega)]
  exact Nat.le_trans (List.length_take_le _ _) isShort

def EndsDate : List Char → Prop
  | [] => True
  | mark :: _ => mark ≠ '-' ∧ isAsciiDigit mark = false

theorem EndsDate.noHyphen (endsDate : EndsDate rest) : rest[0]? ≠ some '-' := by
  cases rest with
  | nil => simp
  | cons mark rest => simpa using endsDate.1

theorem EndsDate.noDigit (endsDate : EndsDate rest) :
    (rest[0]?.map isAsciiDigit).getD false = false := by
  cases rest with
  | nil => rfl
  | cons mark rest => simpa using endsDate.2

theorem EndsDate.noDigits (endsDate : EndsDate rest) : rest.takeWhile isAsciiDigit = [] := by
  cases rest with
  | nil => rfl
  | cons mark rest => exact List.takeWhile_cons_of_neg (by simp [endsDate.2])

theorem isAsciiDigit_of_isDigit {char : Char} (isDigit : char.isDigit = true) :
    isAsciiDigit char = true := by
  rw [isAsciiDigit, (asciiDigit?_eq_some_iff char _).mpr ⟨isDigit, rfl⟩]
  rfl

theorem separatorIndex_append (spelled : date.IsSpelledBy chars) (endsDate : EndsDate rest) :
    separatorIndex (chars ++ rest) = chars.length := by
  have noHyphen := endsDate.noHyphen
  have noDigit := endsDate.noDigit
  have noDigits := endsDate.noDigits
  cases spelled with
  | month separated isYear isMonth isDay =>
      obtain ⟨a, b, c, d, rfl⟩ := List.length_eq_four.mp isYear.width
      obtain ⟨e, f, rfl⟩ := List.length_eq_two.mp isMonth.width
      obtain ⟨g, h, rfl⟩ := List.length_eq_two.mp isDay.width
      have isDigit := isMonth.areDigits e List.mem_cons_self
      have notHyphen : e ≠ '-' := ne_of_isDigit isDigit rfl
      have notWeek : e ≠ 'W' := ne_of_isDigit isDigit rfl
      cases separated <;> simp [separatorIndex, joint, notHyphen, notWeek]
  | week separated isYear isWeek isMonday =>
      obtain ⟨a, b, c, d, rfl⟩ := List.length_eq_four.mp isYear.width
      obtain ⟨e, f, rfl⟩ := List.length_eq_two.mp isWeek.width
      cases separated
      · simp [separatorIndex, joint, noDigits]
      · simp [separatorIndex, joint, noHyphen]
  | weekDay separated isYear isWeek isDay isWeekDay =>
      obtain ⟨a, b, c, d, rfl⟩ := List.length_eq_four.mp isYear.width
      obtain ⟨e, f, rfl⟩ := List.length_eq_two.mp isWeek.width
      obtain ⟨g, rfl⟩ := List.length_eq_one_iff.mp isDay.width
      have isDigit := isAsciiDigit_of_isDigit (isDay.areDigits g List.mem_cons_self)
      cases separated
      · simp [separatorIndex, joint, List.takeWhile_cons_of_pos isDigit, noDigits]
      · simp [separatorIndex, joint, noDigit]

def timeAfter? : List Char → Option (ClockTime × Option Int)
  | [] => some (midnight, none)
  | _ :: time => clockWithOffset? time

theorem split?_eq {chars : List Char} (isLong : 7 ≤ chars.length) :
    split? chars = (civilDate? (chars.take (separatorIndex chars))).bind fun civil =>
      (timeAfter? (chars.drop (separatorIndex chars))).map fun time => (civil, time) := by
  simp only [split?, Option.bind_eq_bind, if_neg (Nat.not_lt_of_le isLong)]
  refine congrArg _ (funext fun civil => ?_)
  cases chars.drop (separatorIndex chars) with
  | nil => rfl
  | cons mark time => exact Option.map_eq_bind.symm

theorem seven_le_of_isSpelledBy (spelled : date.IsSpelledBy chars) : 7 ≤ chars.length := by
  cases spelled with
  | month separated isYear isMonth isDay =>
      simp only [List.length_append, isYear.width, isMonth.width, isDay.width]
      omega
  | week separated isYear isWeek isMonday =>
      simp only [List.length_append, List.length_cons, isYear.width, isWeek.width]
      omega
  | weekDay separated isYear isWeek isDay isWeekDay =>
      simp only [List.length_append, List.length_cons, isYear.width, isWeek.width, isDay.width]
      omega

theorem split?_eq_some_iff (time : ClockTime) (offset : Option Int) :
    split? chars = some (date.civil, time, offset) ↔
      date.IsSpelledBy (chars.take (separatorIndex chars)) ∧
        timeAfter? (chars.drop (separatorIndex chars)) = some (time, offset) := by
  rw [← civilDate?_take_eq_civil_iff]
  by_cases isLong : 7 ≤ chars.length
  · rw [split?_eq isLong]
    simp only [Option.bind_eq_some_iff, Option.map_eq_some_iff, Prod.mk.injEq]
    constructor
    · rintro ⟨_, isCivil, _, isTime, rfl, rfl⟩
      exact ⟨isCivil, isTime⟩
    · rintro ⟨isCivil, isTime⟩
      exact ⟨_, isCivil, _, isTime, rfl, rfl⟩
  · refine iff_of_false ?_ fun ⟨isCivil, _⟩ => ?_
    · simp [split?, Nat.lt_of_not_le isLong]
    · have spelling := seven_le_of_isSpelledBy (civilDate?_take_eq_civil_iff.mp isCivil)
      rw [List.length_take] at spelling
      omega

end IsoText

theorem Instant.ofParts_eq_ok_iff (civil : CivilDate) (time : ClockTime) (offset : Option Int)
    (moment : Instant) :
    ofParts civil time offset = .ok moment ↔
      civil = moment.date.civil ∧ time.toMicros = .ok ⟨moment.micros, moment.micros_lt⟩ ∧
        moment.offset = offset ∧ (offset.getD 0).natAbs < Calendar.microsPerDay := by
  rw [← CivilDate.toDate_eq_ok_iff, ofParts]
  split
  · rename_i isTooLarge
    refine iff_of_false (by simp) ?_
    rintro ⟨_, _, _, isSmall⟩
    exact Nat.not_le_of_lt isSmall isTooLarge
  · rename_i isSmall
    cases civil.toDate with
    | error fault => simp [bind, Except.bind]
    | ok date =>
        cases time.toMicros with
        | error fault => simp [bind, Except.bind]
        | ok micros =>
            simp only [bind, Except.bind, pure, Except.pure, Except.ok.injEq]
            constructor
            · rintro rfl
              exact ⟨rfl, rfl, rfl, Nat.lt_of_not_le isSmall⟩
            · rintro ⟨rfl, rfl, rfl, _⟩
              rfl

open IsoText in
/-- A text is read as a moment when it spells the date of the moment and nothing, for midnight, or a
mark and the time follows. -/
theorem Instant.ofIso_eq_ok_iff (text : String) (moment : Instant) :
    ofIso text = .ok moment ↔
      moment.date.IsSpelledBy (text.toList.take (separatorIndex text.toList)) ∧
        ∃ time, timeAfter? (text.toList.drop (separatorIndex text.toList)) =
            some (time, moment.offset) ∧
          time.toMicros = .ok ⟨moment.micros, moment.micros_lt⟩ ∧
          (moment.offset.getD 0).natAbs < Calendar.microsPerDay := by
  rw [ofIso]
  constructor
  · intro isRead
    split at isRead
    · contradiction
    · rename_i civil time offset isSplit
      obtain ⟨rfl, isTime, rfl, inDay⟩ := (ofParts_eq_ok_iff _ _ _ _).mp isRead
      obtain ⟨spelled, after⟩ := (split?_eq_some_iff _ _).mp isSplit
      exact ⟨spelled, time, after, isTime, inDay⟩
  · rintro ⟨spelled, time, after, isTime, inDay⟩
    rw [(split?_eq_some_iff _ _).mpr ⟨spelled, after⟩]
    exact (ofParts_eq_ok_iff _ _ _ _).mpr ⟨rfl, isTime, rfl, inDay⟩

end ConversionTracking
