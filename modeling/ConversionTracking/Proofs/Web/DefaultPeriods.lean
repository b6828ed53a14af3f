import ConversionTracking.Proofs.Web.Period

/-!
The range of a report whose ends are not both given. An end that is left out or empty stands for the day
of the clock, and such a start for the day thirty days before the end, so that it makes no difference
which of the defaults are written out.
-/

namespace ConversionTracking

open Calendar

theorem Denotes.isEmpty_eq_false {text : String} {date : Date} (denotes : Denotes text date) :
    text.isEmpty = false := by
  obtain ⟨moment, isRead, _⟩ := (denotes_iff text date).mp denotes
  rw [Bool.eq_false_iff, ne_eq, String.isEmpty_iff]
  rintro rfl
  have refused : (Instant.ofIso "").isOk = false := by decide +kernel
  rw [isRead] at refused
  cases refused

namespace DateRange

theorem lastDays_eq_ok_iff {days : Nat} (short : days ≤ 999999999) (now : Instant)
    (range : DateRange) :
    lastDays (.whole days) now = .ok range ↔
      ∃ earlier, now.addMicros? (-(days * microsPerDay)) = some earlier ∧
        range.Spans earlier.date now.date := by
  rw [lastDays_of_span now short]
  cases now.addMicros? (-(days * microsPerDay)) with
  | none => simp
  | some earlier =>
      rw [Option.elim_some, wholeDays_eq_ok_iff]
      simp

end DateRange

namespace Period

/-- The end of a report is left out or empty, or it is given and denotes the date. -/
inductive StandsFor (date : Date) : Option String → Prop
  | missing : StandsFor date none
  | empty : StandsFor date (some "")
  | given {text : String} (denotes : Denotes text date) : StandsFor date (some text)

theorem standsFor_text (date : Date) : StandsFor date (some date.text) := .given date.denotes_text

theorem given?_of_denotes {text : String} {date : Date} (denotes : Denotes text date) :
    given? (some text) = some text := by
  rw [given?, Option.bind_some, denotes.isEmpty_eq_false]
  rfl

theorem StandsFor.given?_cases {date : Date} {text : Option String} (standsFor : StandsFor date text) :
    given? text = none ∨ ∃ given, given? text = some given ∧ Denotes given date := by
  cases standsFor with
  | missing | empty => exact .inl rfl
  | given denotes => exact .inr ⟨_, given?_of_denotes denotes, denotes⟩

theorem StandsFor.denotes_getD {date : Date} {text : Option String} (standsFor : StandsFor date text) :
    Denotes ((given? text).getD date.text) date := by
  rcases standsFor.given?_cases with missing | ⟨given, isGiven, denotes⟩
  · rw [missing]
    exact date.denotes_text
  · rw [isGiven]
    exact denotes

theorem dayBefore_of_denotes {text : String} {first last : Date} (denotes : Denotes text last)
    (apart : first.number + 30 = last.number) : dayBefore text defaultDays = .ok first.text := by
  obtain ⟨moment, isRead, rfl⟩ := (denotes_iff text last).mp denotes
  have days := defaultDays_eq
  have isDay := first.one_le_number
  rw [dayBefore, isRead, ok_bind]
  rcases moment.addMicros?_daysBefore (by decide : 0 ≤ defaultDays) with
    ⟨early, _⟩ | ⟨earlier, isEarlier, isBefore⟩
  · omega
  · have isFirst : earlier.date = first := Date.eq_of_number (by omega)
    rw [isEarlier, ← isFirst]
    rfl

theorem ofEnds_of_standsFor {clock : Instant} {first : Date} {range : DateRange}
    {start finish : Option String} (apart : first.number + 30 = clock.date.number)
    (spans : range.Spans first clock.date) (startStands : StandsFor first start)
    (finishStands : StandsFor clock.date finish) : ofEnds clock start finish = .ok range := by
  have onTexts {startText : String} (denotes : Denotes startText first) :
      DateRange.ofTexts startText ((given? finish).getD clock.date.text) = .ok range :=
    DateRange.ofTexts_eq_ok_iff.mpr ⟨first, clock.date, denotes, finishStands.denotes_getD, spans⟩
  rw [ofEnds]
  by_cases neither : (start.isNone && finish.isNone) = true
  · rw [if_pos neither]
    rcases DateRange.lastDays_of_short clock (show 30 ≤ 999999999 by decide) with
      ⟨early, _⟩ | ⟨other, found, isOther, isFound, foundSpans⟩
    · have isDay := first.one_le_number
      omega
    · obtain rfl : other = first := Date.eq_of_number (by omega)
      have same : found = range := DateRange.ext_ends (foundSpans.start.trans spans.start.symm)
        (foundSpans.finish.trans spans.finish.symm)
      rw [← same]
      exact isFound
  · rw [if_neg neither]
    rcases startStands.given?_cases with missing | ⟨given, isGiven, denotes⟩
    · rw [missing]
      dsimp only
      rw [dayBefore_of_denotes finishStands.denotes_getD apart, ok_bind]
      exact onTexts first.denotes_text
    · rw [isGiven]
      exact onTexts denotes

theorem ofEnds_finish (clock : Instant) {finish : String} (given : finish ≠ "") :
    ofEnds clock none (some finish) =
      Instant.ofIso finish >>= DateRange.lastDays (.whole defaultDays) := by
  have isGiven : given? (some finish) = some finish := by
    rw [given?, Option.bind_some, if_neg (by rwa [String.isEmpty_iff])]
  have noStart : given? none = none := rfl
  have notNeither : ¬((none : Option String).isNone && (some finish).isNone) = true := by simp
  rw [ofEnds, if_neg notNeither, isGiven, noStart]
  dsimp only [Option.getD_some]
  cases isRead : Instant.ofIso finish with
  | error fault =>
      rw [dayBefore, isRead]
      rfl
  | ok last =>
      have days := defaultDays_eq
      rw [ok_bind]
      rcases DateRange.lastDays_of_short last (show 30 ≤ 999999999 by decide) with
        ⟨early, outside⟩ | ⟨first, range, apart, isRange, spans⟩
      · rcases dayBefore_cases finish with ⟨_, failed, _⟩ | ⟨_, isMoment, ⟨_, before⟩ | ⟨late, _⟩⟩
        · rw [isRead] at failed
          contradiction
        · rw [before, error_bind]
          exact outside.symm
        · obtain rfl := Except.ok.inj (isRead.symm.trans isMoment)
          omega
      · have denotes : Denotes finish last.date := (denotes_iff _ _).mpr ⟨last, isRead, rfl⟩
        rw [dayBefore_of_denotes denotes apart, ok_bind]
        exact (DateRange.ofTexts_eq_ok_iff.mpr
          ⟨first, last.date, first.denotes_text, denotes, spans⟩).trans isRange.symm

/-- From the thirty-first day of the calendar on there is one range of 31 days that ends today, however
its ends are left open or written out. An end alone, where it is accepted, gives the whole days from the
date thirty days before its moment to its date. -/
theorem default_periods_agree (clock : Instant) :
    (30 < clock.date.number →
      ∃ first range, first.number + 30 = clock.date.number ∧ range.Spans first clock.date ∧
        range.days = 31 ∧ ∀ start finish, StandsFor first start → StandsFor clock.date finish →
          ofEnds clock start finish = .ok range) ∧
      ∀ finish range, finish ≠ "" →
        (ofEnds clock none (some finish) = .ok range ↔
          ∃ last earlier, Instant.ofIso finish = .ok last ∧
            last.addMicros? (-(30 * microsPerDay)) = some earlier ∧
              range.Spans earlier.date last.date) := by
  constructor
  · intro late
    have inCalendar := clock.date.number_le
    let first : Date := ⟨clock.date.number - 30, by omega, by omega⟩
    have apart : first.number + 30 = clock.date.number := Nat.sub_add_cancel late.le
    obtain ⟨range, isRange⟩ :=
      DateRange.exists_wholeDays (show first.number ≤ clock.date.number by omega)
    have spans := DateRange.wholeDays_eq_ok_iff.mp isRange
    refine ⟨first, range, apart, spans, ?_, ?_⟩
    · rw [spans.days_eq]
      omega
    · exact fun start finish startStands finishStands =>
        ofEnds_of_standsFor apart spans startStands finishStands
  · intro finish range given
    have lastDays := DateRange.lastDays_eq_ok_iff (show 30 ≤ 999999999 by decide)
    rw [ofEnds_finish clock given, Except.bind_eq_ok_iff]
    constructor
    · rintro ⟨last, isRead, isRange⟩
      obtain ⟨earlier, isEarlier, spans⟩ := (lastDays last range).mp isRange
      exact ⟨last, earlier, isRead, isEarlier, spans⟩
    · rintro ⟨last, earlier, isRead, isEarlier, spans⟩
      exact ⟨last, isRead, (lastDays last range).mpr ⟨earlier, isEarlier, spans⟩⟩

def midMarch : Instant :=
  ⟨⟨738960, by decide, by decide⟩, 45000 * microsPerSecond, by decide, none⟩

theorem midMarch_periods_agree :
    (30 < midMarch.date.number ∧ "2024-01-15T23:30+05:00" ≠ "") ∧
      ∃ range other : DateRange,
        range.key = "2024-02-14_2024-03-15" ∧ ofEnds midMarch none none = .ok range ∧
          ofEnds midMarch none (some "2024-03-15") = .ok range ∧
          ofEnds midMarch (some "") none = .ok range ∧ ofEnds midMarch none (some "") = .ok range ∧
          ofEnds midMarch (some "2024-02-14") none = .ok range ∧
        other.key = "2023-12-16_2024-01-15" ∧
          ofEnds midMarch none (some "2024-01-15T23:30+05:00") = .ok other := by
  have late : 30 < midMarch.date.number := by decide
  have given : "2024-01-15T23:30+05:00" ≠ "" := by decide
  obtain ⟨today, alone⟩ := default_periods_agree midMarch
  obtain ⟨first, range, apart, spans, _, agree⟩ := today late
  let february : Date := ⟨738930, by decide, by decide⟩
  obtain rfl : first = february := Date.eq_of_number (Nat.add_right_cancel apart)
  have startText := standsFor_text february
  have finishText := standsFor_text midMarch.date
  have startIs : february.text = "2024-02-14" := by decide +kernel
  have finishIs : midMarch.date.text = "2024-03-15" := by decide +kernel
  rw [startIs] at startText
  rw [finishIs] at finishText
  let january : Date := ⟨738900, by decide, by decide⟩
  let december : Date := ⟨738870, by decide, by decide⟩
  obtain ⟨other, isOther⟩ :=
    DateRange.exists_wholeDays (show december.number ≤ january.number by decide)
  have otherSpans := DateRange.wholeDays_eq_ok_iff.mp isOther
  refine ⟨⟨late, given⟩, range, other, ?_, agree _ _ .missing .missing, agree _ _ .missing finishText,
    agree _ _ .empty .missing, agree _ _ .missing .empty, agree _ _ startText .missing, ?_, ?_⟩
  · rw [DateRange.key, spans.firstDay_eq, spans.lastDay_eq, startIs, finishIs]
    decide +kernel
  · rw [DateRange.key, otherSpans.firstDay_eq, otherSpans.lastDay_eq]
    decide +kernel
  · refine (alone _ other given).mpr
      ⟨⟨january, (23 * 60 + 30) * 60 * microsPerSecond, by decide, some (5 * 3600 * microsPerSecond)⟩,
        ⟨december, (23 * 60 + 30) * 60 * microsPerSecond, by decide,
          some (5 * 3600 * microsPerSecond)⟩, ?_, ?_, otherSpans⟩ <;> decide +kernel

end Period

end ConversionTracking
