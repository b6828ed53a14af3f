import ConversionTracking.Funnel.Body
import ConversionTracking.Proofs.Calendar.CurrentRanges
import ConversionTracking.Proofs.Calendar.DateText
import Mathlib.Data.List.Basic

/-!
Ranges of whole days and the texts they are read from. The texts that a range is sent with, and the
halves of its key, are read as the range again; other texts give the same range when they denote the
same dates.
-/

namespace ConversionTracking

open IsoText

def IsTime (rest : List Char) : Prop :=
  ∃ time offset micros, timeAfter? rest = some (time, offset) ∧ time.toMicros = .ok micros ∧
    (offset.getD 0).natAbs < Calendar.microsPerDay

structure Denotes (text : String) (date : Date) : Prop where
  spelled : date.IsSpelledBy (text.toList.take (separatorIndex text.toList))
  timed : IsTime (text.toList.drop (separatorIndex text.toList))

theorem denotes_iff (text : String) (date : Date) :
    Denotes text date ↔ ∃ moment, Instant.ofIso text = .ok moment ∧ moment.date = date := by
  constructor
  · rintro ⟨spelled, time, offset, ⟨micros, micros_lt⟩, after, isTime, inDay⟩
    exact ⟨⟨date, micros, micros_lt, offset⟩,
      (Instant.ofIso_eq_ok_iff _ _).mpr ⟨spelled, time, after, isTime, inDay⟩, rfl⟩
  · rintro ⟨moment, isRead, rfl⟩
    obtain ⟨spelled, time, after, isTime, inDay⟩ := (Instant.ofIso_eq_ok_iff _ _).mp isRead
    exact ⟨spelled, time, moment.offset, _, after, isTime, inDay⟩

theorem Denotes.unique {text : String} {first second : Date} (isFirst : Denotes text first)
    (isSecond : Denotes text second) : first = second := by
  obtain ⟨moment, isRead, rfl⟩ := (denotes_iff _ _).mp isFirst
  obtain ⟨other, isOther, rfl⟩ := (denotes_iff _ _).mp isSecond
  obtain rfl := Except.ok.inj (isRead.symm.trans isOther)
  rfl

theorem isTime_nil : IsTime [] := ⟨midnight, none, _, rfl, rfl, by decide⟩

theorem endsDate_nil : EndsDate [] := trivial

theorem denotes_of_isSpelledBy {date : Date} {chars rest : List Char}
    (spelled : date.IsSpelledBy chars) (endsDate : EndsDate rest) (isTime : IsTime rest) :
    Denotes (String.ofList (chars ++ rest)) date := by
  have isEnd := separatorIndex_append spelled endsDate
  constructor
  · rw [String.toList_ofList, isEnd, List.take_left]
    exact spelled
  · rw [String.toList_ofList, isEnd, List.drop_left]
    exact isTime

namespace Date

variable (date : Date)

theorem toList_text : date.text.toList =
    Numeral.padded 4 date.year ++ (joint true ++
      (Numeral.padded 2 date.month ++ (joint true ++ Numeral.padded 2 date.day))) := by
  simp [text, paddedText, Numeral.padded, joint]

theorem isSpelledBy_text : date.IsSpelledBy date.text.toList := by
  have year := date.year_bounds
  have month := date.month_bounds
  have day := date.day_bounds
  have short := Calendar.daysInMonth_bounds (Calendar.isLeapYear date.year) month
  rw [toList_text]
  exact .month true (writes_padded (by decide) (by omega)) (writes_padded (by decide) (by omega))
    (writes_padded (by decide) (by omega))

theorem denotes_text : Denotes date.text date := by
  have denotes := denotes_of_isSpelledBy date.isSpelledBy_text endsDate_nil isTime_nil
  rw [List.append_nil, String.ofList_toList] at denotes
  exact denotes

theorem underscore_not_mem_text : '_' ∉ date.text.toList := by
  have notInPadded (width value : Nat) : '_' ∉ Numeral.padded width value := fun member =>
    absurd (Numeral.areDigits_padded width value _ member) (by decide)
  simp [toList_text, notInPadded, joint]

end Date

namespace DateRange

variable {range other : DateRange} {start finish : String}

theorem ofTexts_eq_ok_iff : ofTexts start finish = .ok range ↔
    ∃ first last, Denotes start first ∧ Denotes finish last ∧ range.Spans first last := by
  simp only [denotes_iff, ofTexts, Except.bind_eq_ok_iff, wholeDays_eq_ok_iff]
  constructor
  · rintro ⟨first, isFirst, last, isLast, spans⟩
    exact ⟨_, _, ⟨first, isFirst, rfl⟩, ⟨last, isLast, rfl⟩, spans⟩
  · rintro ⟨_, _, ⟨first, isFirst, rfl⟩, ⟨last, isLast, rfl⟩, spans⟩
    exact ⟨first, isFirst, last, isLast, spans⟩

def IsSentAs (range : DateRange) (start finish : String) : Prop :=
  range.body = Value.record [("start", .text start), ("end", .text finish)]

def HasHalves (text before after : String) : Prop :=
  ∀ front back, text = front ++ "_" ++ back ↔ front = before ∧ back = after

/-- The texts that the range is sent with, which are the halves of its key, are read as the range. -/
def IsReadBack (range : DateRange) : Prop :=
  ∃ start finish, range.IsSentAs start finish ∧ HasHalves range.key start finish ∧
    ofTexts start finish = .ok range

def CoversWholeDays (range : DateRange) : Prop := ∃ first last, range.Spans first last

theorem hasHalves_of_not_mem {before after : String} (notBefore : '_' ∉ before.toList)
    (notAfter : '_' ∉ after.toList) : HasHalves (before ++ "_" ++ after) before after := by
  have underscore : "_".toList = ['_'] := rfl
  intro front back
  rw [← String.toList_inj, ← String.toList_inj, ← String.toList_inj, String.toList_append,
    String.toList_append, String.toList_append, String.toList_append, underscore,
    List.append_assoc, List.append_assoc, List.singleton_append, List.singleton_append]
  constructor
  · intro same
    obtain ⟨sameFront, _, sameBack⟩ :=
      (List.append_cons_inj_of_notMem notBefore notAfter).mp same
    exact ⟨sameFront.symm, sameBack.symm⟩
  · rintro ⟨sameFront, sameBack⟩
    rw [sameFront, sameBack]

theorem hasHalves_key (range : DateRange) :
    HasHalves range.key range.firstDay.text range.lastDay.text :=
  hasHalves_of_not_mem range.firstDay.underscore_not_mem_text range.lastDay.underscore_not_mem_text

theorem CoversWholeDays.ofTexts_texts (covers : range.CoversWholeDays) :
    ofTexts range.firstDay.text range.lastDay.text = .ok range := by
  obtain ⟨first, last, spans⟩ := covers
  rw [ofTexts_eq_ok_iff, spans.firstDay_eq, spans.lastDay_eq]
  exact ⟨first, last, first.denotes_text, last.denotes_text, spans⟩

theorem CoversWholeDays.isReadBack (covers : range.CoversWholeDays) : range.IsReadBack :=
  ⟨_, _, rfl, range.hasHalves_key, covers.ofTexts_texts⟩

theorem CoversWholeDays.eq_of_key (covers : range.CoversWholeDays) (others : other.CoversWholeDays)
    (sameKey : range.key = other.key) : range = other := by
  have halves := range.hasHalves_key
  rw [sameKey] at halves
  obtain ⟨sameFirst, sameLast⟩ := (halves _ _).mp rfl
  have isRange := covers.ofTexts_texts
  rw [← sameFirst, ← sameLast, others.ofTexts_texts] at isRange
  exact (Except.ok.inj isRange).symm

/-- A range of whole days is read from the texts that it is sent with and from the halves of its key,
so that the key tells it from every other. A range that is read from any texts is the one of the dates
that they denote, however these are written, and is read back from its own texts. -/
theorem texts_stand_for_dates :
    (∀ range : DateRange, range.CoversWholeDays → range.IsReadBack) ∧
    (∀ range other : DateRange, range.CoversWholeDays → other.CoversWholeDays →
      (range.key = other.key ↔ range = other)) ∧
    ∀ start finish range, ofTexts start finish = .ok range →
      range.IsReadBack ∧ ∃ first last, Denotes start first ∧ Denotes finish last ∧
        range.Spans first last ∧ ∀ otherStart otherFinish, Denotes otherStart first →
          Denotes otherFinish last → ofTexts otherStart otherFinish = .ok range := by
  refine ⟨fun range covers => covers.isReadBack, fun range other covers others => ?_, ?_⟩
  · exact ⟨covers.eq_of_key others, congrArg key⟩
  · intro start finish range isRange
    obtain ⟨first, last, isFirst, isLast, spans⟩ := ofTexts_eq_ok_iff.mp isRange
    have covers : range.CoversWholeDays := ⟨first, last, spans⟩
    refine ⟨covers.isReadBack, first, last, isFirst, isLast, spans, ?_⟩
    intro otherStart otherFinish isOther isOtherLast
    exact ofTexts_eq_ok_iff.mpr ⟨first, last, isOther, isOtherLast, spans⟩

def leapDays : DateRange where
  start := .startOfDay ⟨737484, by decide, by decide⟩
  finish := .endOfDay ⟨737485, by decide, by decide⟩
  ordered := (Instant.startOfDay_compare?_endOfDay _ _).mpr (by decide)

theorem leapDays_by_week_and_by_month :
    (leapDays.CoversWholeDays ∧ ofTexts "2020-W09-6" "20200301T23:59" = .ok leapDays) ∧
      leapDays.key = "2020-02-29_2020-03-01" ∧ leapDays.IsReadBack ∧
      ofTexts "20200229 00Z" "2020W097" = .ok leapDays := by
  have covers : leapDays.CoversWholeDays := ⟨_, _, rfl, rfl⟩
  have isRead : ofTexts "2020-W09-6" "20200301T23:59" = .ok leapDays := by decide +kernel
  have isFirst : Denotes "20200229 00Z" leapDays.firstDay :=
    (denotes_iff _ _).mpr ⟨⟨leapDays.firstDay, 0, by decide, some 0⟩, by decide +kernel, rfl⟩
  have isLast : Denotes "2020W097" leapDays.lastDay :=
    (denotes_iff _ _).mpr ⟨.startOfDay leapDays.lastDay, by decide +kernel, rfl⟩
  obtain ⟨readBack, _, onDates⟩ := texts_stand_for_dates
  obtain ⟨_, first, last, _, _, spans, others⟩ := onDates _ _ _ isRead
  refine ⟨⟨covers, isRead⟩, by decide +kernel, readBack leapDays covers, ?_⟩
  obtain rfl := spans.firstDay_eq
  obtain rfl := spans.lastDay_eq
  exact others _ _ isFirst isLast

end DateRange

end ConversionTracking
