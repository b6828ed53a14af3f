import ConversionTracking.Proofs.Calendar.Periods
import ConversionTracking.Proofs.Funnel.PageViews

/-!
Visitors of adjacent periods. A query of a step either always fails or puts to the rows of a table a
question that does not depend on the range, so that the rows of two ranges that follow each other are
the rows of both together, but for those that were stamped at the start of the second.
-/

namespace ConversionTracking

namespace Tally

variable {Row : Type} {tally : Tally Row} {earlier range joined : DateRange}

/-- The question to the rows alone that were stamped as the moment was read. -/
def stampedAt (tally : Tally Row) (moment : Instant) : Tally Row :=
  { tally with rows := tally.rows.filter fun row => (tally.createdAt row).isStampOf moment }

theorem mem_stampedAt {moment : Instant} {row : Row} :
    row ∈ (tally.stampedAt moment).rows ↔
      row ∈ tally.rows ∧ (tally.createdAt row).isStampOf moment = true := List.mem_filter

theorem determined_iff_of_joins (joins : earlier.Joins range joined) :
    tally.Determined joined ↔ tally.Determined earlier ∧ tally.Determined range ∧
      (tally.stampedAt range.start).Determined joined := by
  constructor
  · intro determined
    refine ⟨?_, ?_, ?_⟩
    · intro row isRow isKnown inEarlier
      exact determined row isRow isKnown (joins.selects_of_earlier inEarlier)
    · intro row isRow isKnown inRange
      exact determined row isRow isKnown (joins.selects_of_range inRange)
    · intro row isStamped isKnown inJoined
      exact determined row (mem_stampedAt.mp isStamped).1 isKnown inJoined
  · rintro ⟨earlierDetermined, rangeDetermined, stampsDetermined⟩ row isRow isKnown inJoined
    rcases (joins.selects_iff _).mp inJoined with ⟨inEarlier, _⟩ | ⟨_, inRange⟩ | ⟨_, _, isStamp⟩
    · exact earlierDetermined row isRow isKnown inEarlier
    · exact rangeDetermined row isRow isKnown inRange
    · exact stampsDetermined row (mem_stampedAt.mpr ⟨isRow, isStamp⟩) isKnown inJoined

theorem countsFor_iff_of_joins (joins : earlier.Joins range joined) (visitor : String) :
    tally.CountsFor joined visitor ↔ tally.CountsFor earlier visitor ∨
      tally.CountsFor range visitor ∨ (tally.stampedAt range.start).CountsFor joined visitor := by
  constructor
  · rintro ⟨row, isRow, isVisitor, inJoined, counts⟩
    rcases (joins.selects_iff _).mp inJoined with ⟨inEarlier, _⟩ | ⟨_, inRange⟩ | ⟨_, _, isStamp⟩
    · exact .inl ⟨row, isRow, isVisitor, inEarlier, counts⟩
    · exact .inr (.inl ⟨row, isRow, isVisitor, inRange, counts⟩)
    · exact .inr (.inr ⟨row, mem_stampedAt.mpr ⟨isRow, isStamp⟩, isVisitor, inJoined, counts⟩)
  · rintro (⟨row, isRow, isVisitor, inEarlier, counts⟩ | ⟨row, isRow, isVisitor, inRange, counts⟩ |
      ⟨row, isStamped, isVisitor, inJoined, counts⟩)
    · exact ⟨row, isRow, isVisitor, joins.selects_of_earlier inEarlier, counts⟩
    · exact ⟨row, isRow, isVisitor, joins.selects_of_range inRange, counts⟩
    · exact ⟨row, (mem_stampedAt.mp isStamped).1, isVisitor, inJoined, counts⟩

end Tally

namespace Database

/-- The facts alone that were stamped as the moment was read. -/
def stampedAt (database : Database) (moment : Instant) : Database :=
  { database with
    events := database.events.filter fun fact => fact.createdAt.isStampOf moment
    pageViews := database.pageViews.filter fun fact => fact.createdAt.isStampOf moment }

structure IsTallied (scope : Scope) (step : FunnelStep) {Row : Type}
    (tally : Database → Tally Row) : Prop where
  length_le : ∀ database,
    (tally database).rows.length ≤ max database.events.length database.pageViews.length
  stampedAt : ∀ database moment, tally (database.stampedAt moment) = (tally database).stampedAt moment
  answered : ∀ database range,
    (tally database).IsAnsweredBy range (database.distinctVisitors scope step range)

/-- The query of a step fails whatever the facts and the range, or it is a question to the rows of a
table. -/
theorem distinctVisitors_cases (scope : Scope) (step : FunnelStep) :
    (∃ fault, ∀ database range, (distinctVisitors database scope step range).result = .error fault) ∨
      ∃ (Row : Type) (tally : Database → Tally Row), IsTallied scope step tally := by
  cases step with
  | event step =>
      by_cases fits : scope.FitsWord
      · refine .inr ⟨_, fun database => database.eventTally scope step, ?_, fun _ _ => rfl, ?_⟩
        · exact fun database => Nat.le_max_left _ _
        · exact fun database range => database.eventTally_isAnsweredBy fits step range
      · exact .inl ⟨_, fun database range =>
          database.result_distinctVisitors_of_not_fits fits step range⟩
  | pageView step =>
      cases compiles : step.compiled with
      | ok regex =>
          by_cases fits : scope.FitsWord
          · refine .inr ⟨_, fun database => database.pageViewTally scope step regex, ?_,
              fun _ _ => rfl, ?_⟩
            · exact fun database => Nat.le_max_right _ _
            · exact fun database range => database.pageViewTally_isAnsweredBy fits compiles range
          · exact .inl ⟨.beyondColumn, fun database range =>
              database.result_pageViews_of_not_fits fits compiles range⟩
      | error fault =>
          have hasRegex : (step.pattern.isNone && step.regex.isNone) = false := by
            rw [Bool.and_eq_false_iff]
            right
            cases given : step.regex with
            | none =>
                rw [PageViewStep.compiled, given] at compiles
                contradiction
            | some source => rfl
          have tested : ∀ database range, distinctVisitors database scope (.pageView step) range =
              testedPageViewVisitors database scope step range := by
            intro database range
            rw [distinctVisitors, pageViewVisitors, hasRegex]
            rfl
          by_cases isMalformed : fault = .malformed
          · -- A malformed pattern is accepted by no page view of any range.
            subst isMalformed
            let nothing : Tally PageViewFact :=
              ⟨[], PageViewFact.visitorId, PageViewFact.createdAt, fun _ => .ok false⟩
            refine .inr ⟨PageViewFact, fun _ => nothing, fun _ => Nat.zero_le _, fun _ _ => rfl,
              fun database range => ?_⟩
            have answered : (database.distinctVisitors scope (.pageView step) range).result =
                .ok [] := by
              rw [tested, testedPageViewVisitors, compiles]
              rfl
            constructor
            · rw [answered]
              exact ⟨fun _ row isRow => by simp [nothing] at isRow, fun _ => ⟨[], rfl⟩⟩
            · intro visitors isAnswer
              obtain rfl := Except.ok.inj (answered.symm.trans isAnswer)
              exact ⟨List.nodup_nil, fun visitor => by simp [Tally.CountsFor, nothing]⟩
          · refine .inl ⟨.pattern fault, fun database range => ?_⟩
            rw [tested, testedPageViewVisitors, compiles]
            cases fault with
            | malformed => exact absurd rfl isMalformed
            | _ => rfl

variable (database : Database) (scope : Scope)

/-- A range of whole days and the period before it, where there is one, make up one range. A moment of
it is selected for exactly one of the two, but for neither if it is a stamp of the start of the range.
A step can be queried for the joined range exactly when it can be for both and for the facts with such
a stamp, and its visitors are then those of the one, those of the other and those of these facts. -/
theorem previousPeriod_partitions (step : FunnelStep) {first last : Date} {range earlier : DateRange}
    (isWhole : DateRange.wholeDays first last = .ok range)
    (isEarlier : range.previousPeriod = .ok earlier) :
    ∃ joined, DateRange.between earlier.start range.finish = .ok joined ∧
      (∀ moment, joined.selects moment = true ↔
        (earlier.selects moment = true ∧ range.selects moment = false) ∨
          (earlier.selects moment = false ∧ range.selects moment = true) ∨
          (earlier.selects moment = false ∧ range.selects moment = false ∧
            moment.isStampOf range.start = true)) ∧
      ((∃ all, (database.distinctVisitors scope step joined).result = .ok all) ↔
        (∃ before, (database.distinctVisitors scope step earlier).result = .ok before) ∧
          (∃ visitors, (database.distinctVisitors scope step range).result = .ok visitors) ∧
          ∃ missed, ((database.stampedAt range.start).distinctVisitors scope step joined).result =
            .ok missed) ∧
      ∀ all before visitors missed,
        (database.distinctVisitors scope step joined).result = .ok all →
        (database.distinctVisitors scope step earlier).result = .ok before →
        (database.distinctVisitors scope step range).result = .ok visitors →
        ((database.stampedAt range.start).distinctVisitors scope step joined).result = .ok missed →
          ∀ visitor, visitor ∈ all ↔ visitor ∈ before ∨ visitor ∈ visitors ∨ visitor ∈ missed := by
  obtain ⟨joined, isJoined, joins⟩ := DateRange.previousPeriod_joins isWhole isEarlier
  refine ⟨joined, isJoined, joins.selects_iff, ?_⟩
  rcases distinctVisitors_cases scope step with ⟨fault, fails⟩ | ⟨Row, tally, isTallied⟩
  · simp [fails]
  · have answered := isTallied.answered database
    have missedAnswered := isTallied.answered (database.stampedAt range.start) joined
    rw [isTallied.stampedAt] at missedAnswered
    refine ⟨?_, fun all before visitors missed isAll isBefore areVisitors areMissed visitor => ?_⟩
    · rw [(answered joined).determined_iff, (answered earlier).determined_iff,
        (answered range).determined_iff, missedAnswered.determined_iff]
      exact Tally.determined_iff_of_joins joins
    · rw [((answered joined).lists all isAll).mem_iff,
        ((answered earlier).lists before isBefore).mem_iff,
        ((answered range).lists visitors areVisitors).mem_iff,
        (missedAnswered.lists missed areMissed).mem_iff]
      exact Tally.countsFor_iff_of_joins joins visitor

def dayBeforeSignups : Date := ⟨738894, by decide, by decide⟩

def rangeBeforeSignups : DateRange :=
  ⟨.startOfDay dayBeforeSignups, .endOfDay dayBeforeSignups, by decide⟩

def rangeToSignups : DateRange := ⟨.startOfDay dayBeforeSignups, .endOfDay signupDay, by decide⟩

theorem paid_signups_of_two_days :
    ∃ joined all, DateRange.between rangeBeforeSignups.start signupRange.finish = .ok joined ∧
      (plannedSignups.distinctVisitors .everything
        (.event (signupStep [("plan", .text "pro")])) joined).result = .ok all ∧
      ∀ visitor, visitor ∈ all ↔ visitor = "first" := by
  let step : FunnelStep := .event (signupStep [("plan", .text "pro")])
  have isWhole : DateRange.wholeDays signupDay signupDay = .ok signupRange := rfl
  have isEarlier : signupRange.previousPeriod = .ok rangeBeforeSignups := by decide +kernel
  obtain ⟨joined, isJoined, _, answered_iff, union⟩ :=
    plannedSignups.previousPeriod_partitions .everything step isWhole isEarlier
  obtain rfl : rangeToSignups = joined := Except.ok.inj isJoined
  have before : (plannedSignups.distinctVisitors .everything step rangeBeforeSignups).result =
      .ok [] := by
    decide +kernel
  have onDay : (plannedSignups.distinctVisitors .everything step signupRange).result =
      .ok ["first"] := by
    decide +kernel
  have missed : ((plannedSignups.stampedAt signupRange.start).distinctVisitors .everything step
      rangeToSignups).result = .ok [] := by
    decide +kernel
  obtain ⟨all, isAll⟩ := answered_iff.mpr ⟨⟨_, before⟩, ⟨_, onDay⟩, _, missed⟩
  refine ⟨rangeToSignups, all, isJoined, isAll, fun visitor => ?_⟩
  rw [union all [] ["first"] [] isAll before onDay missed]
  simp

/-- A signup that the database stamped at midnight is counted for two days together, but for neither
of them. -/
theorem start_stamp_in_neither_period :
    let step : FunnelStep := .event (signupStep [])
    DateRange.wholeDays signupDay signupDay = .ok signupRange ∧
      signupRange.previousPeriod = .ok rangeBeforeSignups ∧
      DateRange.between rangeBeforeSignups.start signupRange.finish = .ok rangeToSignups ∧
      rangeToSignups.selects stampedSignup.createdAt = true ∧
      rangeBeforeSignups.selects stampedSignup.createdAt = false ∧
      signupRange.selects stampedSignup.createdAt = false ∧
      (stampedSignups.distinctVisitors .everything step rangeToSignups).result = .ok ["first"] ∧
      (stampedSignups.distinctVisitors .everything step rangeBeforeSignups).result = .ok [] ∧
      (stampedSignups.distinctVisitors .everything step signupRange).result = .ok [] := by
  decide +kernel

end Database

end ConversionTracking
