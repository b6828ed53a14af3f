import ConversionTracking.Proofs.Calendar.RangeTexts
import ConversionTracking.Web.Period

/-!
Which ends of a report can be refused. A text that is no date, or a start after the end, is refused
with its reason. A start that is not given is searched for thirty days before the end, where the
calendar may not have started yet, and that is not refused.
-/

namespace ConversionTracking

open Calendar

section

variable {α β : Type} {first : Except CalendarFault α} {next : α → Except CalendarFault β}

def OnlyRefuses (computation : Except CalendarFault α) : Prop :=
  ∀ fault, computation = .error fault → fault.isRefusal = true

theorem onlyRefuses_ok (value : α) : OnlyRefuses (.ok value : Except CalendarFault α) := by
  intro fault failed
  contradiction

theorem onlyRefuses_error {fault : CalendarFault} (isRefusal : fault.isRefusal = true) :
    OnlyRefuses (.error fault : Except CalendarFault α) := by
  intro other failed
  obtain rfl := Except.error.inj failed
  exact isRefusal

theorem OnlyRefuses.bind (firstRefuses : OnlyRefuses first)
    (nextRefuses : ∀ value, first = .ok value → OnlyRefuses (next value)) :
    OnlyRefuses (first >>= next) := by
  cases result : first with
  | error fault => exact onlyRefuses_error (firstRefuses fault result)
  | ok value => exact nextRefuses value result

end

theorem onlyRefuses_toDate (civil : CivilDate) : OnlyRefuses civil.toDate := by
  unfold CivilDate.toDate
  split
  · exact onlyRefuses_error rfl
  · split
    · exact onlyRefuses_error rfl
    · split
      · exact onlyRefuses_error rfl
      · exact onlyRefuses_ok _

theorem onlyRefuses_toMicros (time : ClockTime) : OnlyRefuses time.toMicros := by
  unfold ClockTime.toMicros
  split
  · split
    · split
      · split
        · exact onlyRefuses_ok _
        · exact onlyRefuses_error rfl
      · exact onlyRefuses_error rfl
    · exact onlyRefuses_error rfl
  · exact onlyRefuses_error rfl

theorem onlyRefuses_ofParts (civil : CivilDate) (time : ClockTime) (offset : Option Int) :
    OnlyRefuses (Instant.ofParts civil time offset) := by
  unfold Instant.ofParts
  split
  · exact onlyRefuses_error rfl
  · refine (onlyRefuses_toDate civil).bind fun date _ => ?_
    refine (onlyRefuses_toMicros time).bind fun micros _ => ?_
    exact onlyRefuses_ok _

theorem onlyRefuses_ofIso (text : String) : OnlyRefuses (Instant.ofIso text) := by
  unfold Instant.ofIso
  split
  · exact onlyRefuses_error rfl
  · exact onlyRefuses_ofParts _ _ _

namespace DateRange

theorem wholeDays_cases (first last : Date) :
    (∃ range, wholeDays first last = .ok range ∧ range.Spans first last) ∨
      ∃ fault, wholeDays first last = .error fault ∧ fault.isRefusal = true := by
  by_cases ordered : first.number ≤ last.number
  · obtain ⟨range, isRange⟩ := exists_wholeDays ordered
    exact Or.inl ⟨range, isRange, wholeDays_eq_ok_iff.mp isRange⟩
  · right
    have comparable : ((Instant.startOfDay first).compare? (.endOfDay last)).isNone = false := rfl
    have isAfter := mt (Instant.startOfDay_compare?_endOfDay first last).mp ordered
    refine ⟨.startAfterEnd (.startOfDay first) (.endOfDay last), ?_, rfl⟩
    rw [wholeDays, between, comparable, if_neg (by decide), dif_neg isAfter]

theorem onlyRefuses_ofTexts (start finish : String) : OnlyRefuses (ofTexts start finish) := by
  unfold ofTexts
  refine (onlyRefuses_ofIso start).bind fun first _ => ?_
  refine (onlyRefuses_ofIso finish).bind fun last _ => ?_
  rcases wholeDays_cases first.date last.date with ⟨range, isRange, _⟩ | ⟨fault, failed, isRefusal⟩
  · rw [isRange]
    exact onlyRefuses_ok range
  · rw [failed]
    exact onlyRefuses_error isRefusal

end DateRange

namespace Period

def lastMoment (clock : Instant) (start finish : Option String) : Except CalendarFault Instant :=
  if start.isNone && finish.isNone then .ok clock
  else Instant.ofIso ((given? finish).getD clock.date.text)

/-- The start is not given, and the end is one of the first thirty days of the calendar. -/
def PrecedesCalendar (clock : Instant) (start finish : Option String) : Prop :=
  given? start = none ∧
    ∃ last, lastMoment clock start finish = .ok last ∧ last.date.number ≤ 30

inductive LeadTo (clock : Instant) (start finish : Option String) :
    Except CalendarFault DateRange → Prop
  | range {range first last} (spans : range.Spans first last)
      (inCalendar : ¬PrecedesCalendar clock start finish) : LeadTo clock start finish (.ok range)
  | refused {fault} (isRefusal : fault.isRefusal = true)
      (inCalendar : ¬PrecedesCalendar clock start finish) : LeadTo clock start finish (.error fault)
  | outside (precedes : PrecedesCalendar clock start finish) :
      LeadTo clock start finish (.error .outsideCalendar)

theorem defaultDays_eq : defaultDays = 30 := rfl

theorem lastDays_cases (clock : Instant) :
    (clock.date.number ≤ 30 ∧
        DateRange.lastDays (.whole defaultDays) clock = .error .outsideCalendar) ∨
      (30 < clock.date.number ∧ ∃ range first last,
        DateRange.lastDays (.whole defaultDays) clock = .ok range ∧ range.Spans first last) := by
  rcases DateRange.lastDays_of_short clock (show 30 ≤ 999999999 by decide) with
    ⟨early, outside⟩ | ⟨first, range, isFirst, isRange, spans⟩
  · exact Or.inl ⟨early, outside⟩
  · have positive := first.one_le_number
    exact Or.inr ⟨by omega, range, first, clock.date, isRange, spans⟩

theorem dayBefore_cases (text : String) :
    (∃ fault, Instant.ofIso text = .error fault ∧ dayBefore text defaultDays = .error fault) ∨
      ∃ moment, Instant.ofIso text = .ok moment ∧
        ((moment.date.number ≤ 30 ∧ dayBefore text defaultDays = .error .outsideCalendar) ∨
          (30 < moment.date.number ∧ ∃ day, dayBefore text defaultDays = .ok day)) := by
  have days := defaultDays_eq
  unfold dayBefore
  cases Instant.ofIso text with
  | error fault =>
      rw [error_bind]
      exact Or.inl ⟨fault, rfl, rfl⟩
  | ok moment =>
      rw [ok_bind]
      refine Or.inr ⟨moment, rfl, ?_⟩
      rcases moment.addMicros?_daysBefore (by decide : 0 ≤ defaultDays) with
        ⟨early, outside⟩ | ⟨earlier, isEarlier, isBefore⟩
      · rw [outside]
        exact Or.inl ⟨by omega, rfl⟩
      · rw [isEarlier]
        have positive := earlier.date.one_le_number
        exact Or.inr ⟨by omega, _, rfl⟩

theorem leadTo_ofTexts {clock : Instant} {start finish : Option String}
    (inCalendar : ¬PrecedesCalendar clock start finish) (first last : String) :
    LeadTo clock start finish (DateRange.ofTexts first last) := by
  cases result : DateRange.ofTexts first last with
  | error fault => exact .refused (DateRange.onlyRefuses_ofTexts first last fault result) inCalendar
  | ok range =>
      obtain ⟨_, _, _, _, spans⟩ := DateRange.ofTexts_eq_ok_iff.mp result
      exact .range spans inCalendar

theorem leadTo_ofEnds (clock : Instant) (start finish : Option String) :
    LeadTo clock start finish (ofEnds clock start finish) := by
  rw [ofEnds]
  by_cases neither : (start.isNone && finish.isNone) = true
  · -- Without either end the range is the last thirty days up to the day of the clock.
    rw [if_pos neither]
    have isLast : lastMoment clock start finish = .ok clock := if_pos neither
    rw [Bool.and_eq_true, Option.isNone_iff_eq_none] at neither
    rcases lastDays_cases clock with ⟨early, outside⟩ | ⟨late, range, first, last, isRange, spans⟩
    · rw [outside]
      exact .outside ⟨by rw [neither.1]; rfl, clock, isLast, early⟩
    · rw [isRange]
      refine .range spans ?_
      rintro ⟨_, last, isClock, early⟩
      obtain rfl := Except.ok.inj (isLast.symm.trans isClock)
      omega
  · rw [if_neg neither]
    have isLast : lastMoment clock start finish =
        Instant.ofIso ((given? finish).getD clock.date.text) := if_neg neither
    generalize (given? finish).getD clock.date.text = last at isLast ⊢
    cases isStart : given? start with
    | some first =>
        refine leadTo_ofTexts (fun precedes => ?_) first last
        rw [precedes.1] at isStart
        contradiction
    | none =>
        dsimp only
        rcases dayBefore_cases last with ⟨fault, isFault, failed⟩ |
          ⟨moment, isMoment, ⟨early, outside⟩ | ⟨late, first, isFirst⟩⟩
        · rw [failed, error_bind]
          refine .refused (onlyRefuses_ofIso last fault isFault) ?_
          rintro ⟨_, moment, isMoment, _⟩
          rw [isLast, isFault] at isMoment
          contradiction
        · rw [outside, error_bind]
          exact .outside ⟨isStart, moment, isLast.trans isMoment, early⟩
        · rw [isFirst, ok_bind]
          refine leadTo_ofTexts ?_ first last
          rintro ⟨_, other, isOther, early⟩
          rw [isLast, isMoment] at isOther
          obtain rfl := Except.ok.inj isOther
          omega

theorem ofEnds_answers_iff (clock : Instant) (start finish : Option String) :
    ((∃ range, ofEnds clock start finish = .ok range) ∨
        ∃ fault, ofEnds clock start finish = .error fault ∧ fault.isRefusal = true) ↔
      ¬PrecedesCalendar clock start finish := by
  have led := leadTo_ofEnds clock start finish
  generalize ofEnds clock start finish = result at led
  cases led with
  | range _ inCalendar => exact iff_of_true (Or.inl ⟨_, rfl⟩) inCalendar
  | refused isRefusal inCalendar => exact iff_of_true (Or.inr ⟨_, rfl, isRefusal⟩) inCalendar
  | outside precedes =>
      refine iff_of_false ?_ fun inCalendar => inCalendar precedes
      rintro (⟨_, isRange⟩ | ⟨_, isFault, isRefusal⟩)
      · contradiction
      · obtain rfl := Except.error.inj isFault
        contradiction

end Period

end ConversionTracking
