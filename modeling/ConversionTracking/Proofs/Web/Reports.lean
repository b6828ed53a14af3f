import ConversionTracking.Proofs.Funnel.Analysis
import ConversionTracking.Proofs.Store.Scope
import ConversionTracking.Proofs.Web.Period
import ConversionTracking.Web.Respond

/-!
Answers to requests for reports on a goal. A request that goes wrong is told so, unless a number in it
is too large for the tables, its dates lead before the calendar, a stored step has a list for a type, or
the name of a step that is sent is not finite.
-/

namespace ConversionTracking

inductive Report where
  | funnel
  | comparison
  | bottlenecks (limit : Int)

namespace Request

def range (clock : Instant) (request : Request) : Except CalendarFault DateRange :=
  Period.ofEnds clock (request.parameter? "start") (request.parameter? "end")

def PrecedesCalendar (clock : Instant) (request : Request) : Prop :=
  Period.PrecedesCalendar clock (request.parameter? "start") (request.parameter? "end")

def LeavesEarlier (request : Request) : Prop :=
  request.parameter? "previous_start" = none ∧ request.parameter? "previous_end" = none

inductive EarlierPrecedesCalendar (clock : Instant) (request : Request) (range : DateRange) : Prop
  | periodBefore (left : request.LeavesEarlier)
      (precedes : (range.firstDay.number : Int) ≤ range.days)
  | given (isGiven : ¬request.LeavesEarlier)
      (precedes : Period.PrecedesCalendar clock (request.parameter? "previous_start")
        (request.parameter? "previous_end"))

end Request

namespace Report

def answer (clock : Instant) (request : Request) (scope : Scope) (id : Int) :
    Report → Work Response
  | .funnel => Respond.funnel clock request scope id
  | .comparison => Respond.comparison clock request scope id
  | .bottlenecks limit => Respond.bottlenecks clock request scope id limit

def sent (analysis : FunnelReport) : Report → List StepResult
  | .funnel => analysis.steps
  | .comparison => analysis.steps
  | .bottlenecks limit => analysis.ranking.take limit.toNat

inductive Covers (clock : Instant) (request : Request) : Report → List DateRange → Prop
  | funnel {range} (isRange : request.range clock = .ok range) :
      Covers clock request .funnel [range]
  | comparison {range earlier} (isRange : request.range clock = .ok range)
      (isEarlier : Respond.earlierRange clock request range = .ok earlier) :
      Covers clock request .comparison [range, earlier]
  | bottlenecks {limit range} (isRange : request.range clock = .ok range) :
      Covers clock request (.bottlenecks limit) [range]

inductive PrecedesCalendar (clock : Instant) (request : Request) : Report → Prop
  | range {report} (precedes : request.PrecedesCalendar clock) : PrecedesCalendar clock request report
  | earlier {range} (isRange : request.range clock = .ok range)
      (precedes : request.EarlierPrecedesCalendar clock range) :
      PrecedesCalendar clock request .comparison

section

variable (database : Database) (scope : Scope)

inductive FailsFor (goal : Goal) (ranges : List DateRange) (report : Report) : Prop
  | listedStep (listed : goal.HasListedStep)
  | unsendable {range analysis result} (isCovered : range ∈ ranges)
      (isAnalysis : (goal.funnel.analyze (database.visitorCount scope) range).result = .ok analysis)
      (isSent : result ∈ report.sent analysis) (notFinite : ¬result.name.isFinite = true)

inductive FailsOn (clock : Instant) (request : Request) (goal : Goal) (report : Report) : Prop
  | beforeCalendar (precedes : report.PrecedesCalendar clock request)
  | inCalendar {ranges} (covers : report.Covers clock request ranges)
      (fails : report.FailsFor database scope goal ranges)

inductive Fails (clock : Instant) (request : Request) (id : Int) (report : Report) : Prop
  | tooLarge (beyond : ¬(scope.FitsWord ∧ IsWord id))
  | onGoal {goal} (found : database.findGoal scope id = .ok (some goal))
      (fails : report.FailsOn database scope clock request goal)

end

end Report

namespace Response

def Tells (response : Response) : Prop := response.status ∈ [200, 400, 404, 422]

/-- An internal error if the request fails, and a telling answer if it does not. -/
inductive Settles (fails : Prop) : Response → Prop
  | told {response} (holds : ¬fails) (tells : response.Tells) : Settles fails response
  | lost (failed : fails) : Settles fails .internalError

theorem Settles.of_iff {fails failsToo : Prop} (same : fails ↔ failsToo) {response : Response}
    (settles : response.Settles fails) : response.Settles failsToo := by
  cases settles with
  | told holds tells => exact .told (mt same.mpr holds) tells
  | lost failed => exact .lost (same.mp failed)

end Response

namespace Respond

open Response

def answered : Except Fault Response → Response
  | .ok response => response
  | .error fault => ofFault fault

theorem settles_sendReport {body : Value} {fails : Prop}
    (finite_iff : body.isFinite = true ↔ ¬fails) : (sendReport body).Settles fails := by
  rw [sendReport]
  by_cases finite : body.isFinite = true
  · rw [if_pos finite]
    refine .told (finite_iff.mp finite) ?_
    simp [Tells, Response.ok]
  · rw [if_neg finite]
    exact .lost (not_not.mp (mt finite_iff.mpr finite))

section

variable {database : Database} {scope : Scope} {goal : Goal} (valid : goal.StoresValid)
  (fit : database.FactsFit)

include valid fit

theorem settles_analyses {work : Work Response} {report : Report} {ranges : List DateRange}
    (countable : ∀ range ∈ ranges, goal.IsCountableIn database scope range)
    (fails : ∀ fault, (∀ range, (goal.funnel.analyze (database.visitorCount scope) range).result =
      .error fault) → work.result database = .error fault)
    (analyzed : (∀ range ∈ ranges, ∃ analysis,
        (goal.funnel.analyze (database.visitorCount scope) range).result = .ok analysis ∧
          analysis.IsModerate) →
      (answered (work.result database)).Settles (∃ range ∈ ranges, ∃ analysis,
        (goal.funnel.analyze (database.visitorCount scope) range).result = .ok analysis ∧
          ¬∀ result ∈ report.sent analysis, result.name.isFinite = true)) :
    (answered (work.result database)).Settles (report.FailsFor database scope goal ranges) := by
  rcases valid.configuredSteps_cases with
    ⟨listed, failed⟩ | ⟨notListed, ⟨fault, failed⟩ | ⟨steps, areSteps⟩⟩
  · rw [fails _ (Goal.analyze_of_error failed _)]
    exact .lost (.listedStep listed)
  · rw [fails _ (Goal.analyze_of_error failed _)]
    refine .told ?_ (by simp [Tells, answered, ofFault, detail])
    rintro (listed | ⟨_, isAnalysis, _, _⟩)
    · exact notListed listed
    · rw [Goal.analyze_of_error failed] at isAnalysis
      contradiction
  · refine (analyzed fun range isCovered =>
      (countable range isCovered).exists_analysis fit areSteps).of_iff ?_
    constructor
    · rintro ⟨range, isCovered, analysis, isAnalysis, notFinite⟩
      obtain ⟨result, isSent, notFinite⟩ := not_forall₂.mp notFinite
      exact .unsendable isCovered isAnalysis isSent notFinite
    · rintro (listed | ⟨isCovered, isAnalysis, isSent, notFinite⟩)
      · exact absurd listed notListed
      · exact ⟨_, isCovered, _, isAnalysis, fun finite => notFinite (finite _ isSent)⟩

theorem settles_funnel {range : DateRange} (countable : goal.IsCountableIn database scope range) :
    (answered ((do
      return sendReport (← FunnelReports.analyze scope goal range).body :
        Work Response).result database)).Settles
      (Report.FailsFor database scope goal [range] .funnel) := by
  have result : (FunnelReports.analyze scope goal range).result database =
      (goal.funnel.analyze (database.visitorCount scope) range).result := rfl
  refine settles_analyses valid fit (by simpa using countable) ?_ ?_
  · intro fault failed
    rw [Work.result_bind, result, failed]
  · intro analyses
    obtain ⟨analysis, isAnalysis, moderate⟩ := analyses range (by simp)
    rw [Work.result_bind, result, isAnalysis]
    apply settles_sendReport
    rw [moderate.isFinite_body_iff]
    simp [isAnalysis, Report.sent, FunnelReport.HasFiniteNames]

theorem settles_comparison {range earlier : DateRange}
    (countable : goal.IsCountableIn database scope range)
    (earlierCountable : goal.IsCountableIn database scope earlier) :
    (answered ((do
      return sendReport (← FunnelReports.compare scope goal range earlier).body :
        Work Response).result database)).Settles
      (Report.FailsFor database scope goal [range, earlier] .comparison) := by
  have result : (FunnelReports.compare scope goal range earlier).result database =
      (goal.funnel.compare (database.visitorCount scope) (database.visitorCount scope) range
        earlier).result := rfl
  refine settles_analyses valid fit (by simpa using ⟨countable, earlierCountable⟩) ?_ ?_
  · intro fault failed
    rw [Work.result_bind, result, Funnel.compare, Outcome.result_bind, failed]
  · intro analyses
    obtain ⟨current, isCurrent, moderate⟩ := analyses range (by simp)
    obtain ⟨previous, isPrevious, earlierModerate⟩ := analyses earlier (by simp)
    rw [Work.result_bind, result, Funnel.compare, Outcome.result_bind, isCurrent]
    simp only [Outcome.result_bind, isPrevious, Outcome.result_pure, Work.result_pure]
    apply settles_sendReport
    rw [ComparisonReport.isFinite_body_iff moderate earlierModerate]
    simp [isCurrent, isPrevious, Report.sent, FunnelReport.HasFiniteNames]

theorem settles_bottlenecks {range : DateRange} {limit : Int} (positive : 0 < limit)
    (countable : goal.IsCountableIn database scope range) :
    (answered ((do
      let steps ← FunnelReports.bottlenecks scope goal range limit
      return sendReport <| Value.record
        [("goal_id", .int goal.id), ("date_range", range.body),
          ("bottlenecks", .list (steps.map StepResult.body))] :
        Work Response).result database)).Settles
      (Report.FailsFor database scope goal [range] (.bottlenecks limit)) := by
  have result : (FunnelReports.bottlenecks scope goal range limit).result database =
      (goal.funnel.bottlenecks (database.visitorCount scope) range limit).result := rfl
  refine settles_analyses valid fit (by simpa using countable) ?_ ?_
  · intro fault failed
    rw [Work.result_bind, result, Funnel.bottlenecks, if_neg (by omega), Outcome.result_bind,
      failed]
  · intro analyses
    obtain ⟨analysis, isAnalysis, moderate⟩ := analyses range (by simp)
    have sentModerate : ∀ result ∈ analysis.ranking.take limit.toNat, result.IsModerate :=
      fun result isSent => moderate.steps result (FunnelReport.mem_ranking (List.mem_of_mem_take isSent))
    rw [Work.result_bind, result, Funnel.bottlenecks, if_neg (by omega), Outcome.result_bind,
      isAnalysis]
    apply settles_sendReport
    simp only [Value.isFinite_record, List.all_cons, List.all_nil, Value.isFinite_int,
      DateRange.isFinite_body, Bool.true_and, Bool.and_true,
      StepResult.isFinite_bodies_iff sentModerate]
    simp [isAnalysis, Report.sent]

end

theorem tells_refuseRange (name : String) {fault : CalendarFault} (isRefusal : fault.isRefusal = true) :
    (refuseRange name fault).Tells := by
  simp [refuseRange, isRefusal, Tells, detail]

variable {clock : Instant} {request : Request}

theorem earlierRange_of_left (left : request.LeavesEarlier) (range : DateRange) :
    earlierRange clock request range = range.previousPeriod.mapError fun _ => .internalError := by
  rw [earlierRange, left.1, left.2]

theorem earlierRange_of_given (isGiven : ¬request.LeavesEarlier) (range : DateRange) :
    earlierRange clock request range =
      (Period.ofEnds clock (request.parameter? "previous_start")
        (request.parameter? "previous_end")).mapError (refuseRange "previous range") := by
  rw [earlierRange]
  split
  · rename_i noStart noEnd
    exact absurd ⟨noStart, noEnd⟩ isGiven
  · rfl

theorem earlierRange_cases (clock : Instant) (request : Request) {range : DateRange}
    {first last : Date} (spans : range.Spans first last) :
    (request.EarlierPrecedesCalendar clock range ∧
        earlierRange clock request range = .error .internalError) ∨
      (¬request.EarlierPrecedesCalendar clock range ∧
        ((∃ response, earlierRange clock request range = .error response ∧ response.Tells) ∨
          ∃ earlier, earlierRange clock request range = .ok earlier)) := by
  by_cases left : request.LeavesEarlier
  · rw [earlierRange_of_left left]
    have exists_iff := spans.exists_previousPeriod_iff
    rw [← spans.firstDay_eq] at exists_iff
    cases isEarlier : range.previousPeriod with
    | ok earlier =>
        have inCalendar := exists_iff.mp ⟨earlier, isEarlier⟩
        refine Or.inr ⟨?_, Or.inr ⟨earlier, rfl⟩⟩
        rintro (⟨_, precedes⟩ | ⟨isGiven, _⟩)
        · omega
        · exact isGiven left
    | error fault =>
        rw [isEarlier] at exists_iff
        have precedes : ¬range.days < range.firstDay.number := by simpa using exists_iff
        exact Or.inl ⟨.periodBefore left (by omega), rfl⟩
  · rw [earlierRange_of_given left]
    have led := Period.leadTo_ofEnds clock (request.parameter? "previous_start")
      (request.parameter? "previous_end")
    have notBefore (inCalendar : ¬Period.PrecedesCalendar clock (request.parameter? "previous_start")
        (request.parameter? "previous_end")) : ¬request.EarlierPrecedesCalendar clock range := by
      rintro (⟨isLeft, _⟩ | ⟨_, precedes⟩)
      · exact left isLeft
      · exact inCalendar precedes
    generalize Period.ofEnds clock (request.parameter? "previous_start")
      (request.parameter? "previous_end") = result at led
    cases led with
    | range _ inCalendar => exact Or.inr ⟨notBefore inCalendar, Or.inr ⟨_, rfl⟩⟩
    | refused isRefusal inCalendar =>
        exact Or.inr ⟨notBefore inCalendar, Or.inl ⟨_, rfl, tells_refuseRange _ isRefusal⟩⟩
    | outside precedes => exact Or.inl ⟨.given left precedes, rfl⟩

end Respond

namespace Report

open Response Respond

variable {clock : Instant} {request : Request} {database : Database} {scope : Scope} {report : Report}

theorem Covers.unique {ranges others : List DateRange} (covers : report.Covers clock request ranges)
    (coversOthers : report.Covers clock request others) : ranges = others := by
  cases covers with
  | funnel isRange | bottlenecks isRange =>
      cases coversOthers with
      | _ isOther =>
          obtain rfl := Except.ok.inj (isRange.symm.trans isOther)
          rfl
  | comparison isRange isEarlier =>
      cases coversOthers with
      | comparison isOther isEarlierOther =>
          obtain rfl := Except.ok.inj (isRange.symm.trans isOther)
          obtain rfl := Except.ok.inj (isEarlier.symm.trans isEarlierOther)
          rfl

theorem Covers.range_eq_ok {ranges : List DateRange} (covers : report.Covers clock request ranges) :
    ∃ range, request.range clock = .ok range := by
  cases covers with
  | funnel isRange | comparison isRange _ | bottlenecks isRange => exact ⟨_, isRange⟩

theorem failsOn_iff {goal : Goal} {ranges : List DateRange}
    (covers : report.Covers clock request ranges)
    (inCalendar : ¬report.PrecedesCalendar clock request) :
    report.FailsFor database scope goal ranges ↔
      report.FailsOn database scope clock request goal := by
  constructor
  · exact .inCalendar covers
  · rintro (precedes | ⟨coversOthers, fails⟩)
    · exact absurd precedes inCalendar
    · obtain rfl := covers.unique coversOthers
      exact fails

theorem settles_range {goal : Goal} {rest : DateRange → Work Response}
    (settles : ∀ range first last, request.range clock = .ok range → range.Spans first last →
      ¬request.PrecedesCalendar clock →
      (answered ((rest range).result database)).Settles
        (report.FailsOn database scope clock request goal)) :
    (answered (Work.result (match request.range clock with
      | .error fault => return refuseRange "range" fault
      | .ok range => rest range) database)).Settles
      (report.FailsOn database scope clock request goal) := by
  have led := Period.leadTo_ofEnds clock (request.parameter? "start") (request.parameter? "end")
  change Period.LeadTo _ _ _ (request.range clock) at led
  cases isRange : request.range clock with
  | ok range =>
      rw [isRange] at led
      cases led with
      | range spans inCalendar => exact settles range _ _ isRange spans inCalendar
  | error fault =>
      rw [isRange] at led
      cases led with
      | outside precedes => exact .lost (.beforeCalendar (.range precedes))
      | refused isRefusal inCalendar =>
          refine .told ?_ (tells_refuseRange "range" isRefusal)
          rintro (⟨precedes | ⟨isOk, _⟩⟩ | ⟨covers, _⟩)
          · exact inCalendar precedes
          · rw [isRange] at isOk
            contradiction
          · obtain ⟨range, isOk⟩ := covers.range_eq_ok
            rw [isRange] at isOk
            contradiction

theorem settles_get {id : Int} {rest : Goal → Work Response}
    (settles : ∀ goal, database.findGoal scope id = .ok (some goal) →
      (answered ((rest goal).result database)).Settles
        (report.FailsOn database scope clock request goal)) :
    (answered ((Goals.get scope id >>= rest).result database)).Settles
      (report.Fails database scope clock request id) := by
  rw [Work.result_bind, Goals.result_get, Goals.after_get]
  by_cases fits : scope.FitsWord ∧ IsWord id
  · have isFound := database.findGoal_of_fits fits.1 fits.2
    generalize (database.visibleGoals scope).find? (·.id == id) = found at isFound
    rw [isFound]
    cases found with
    | none =>
        refine .told ?_ (by simp [Tells, answered, ofFault, detail])
        rintro (beyond | ⟨isSome, _⟩)
        · exact beyond fits
        · rw [isFound] at isSome
          cases isSome
    | some goal =>
        refine (settles goal isFound).of_iff ?_
        constructor
        · exact .onGoal isFound
        · rintro (beyond | ⟨isOther, fails⟩)
          · exact absurd fits beyond
          · obtain rfl := Option.some.inj (Except.ok.inj (isFound.symm.trans isOther))
            exact fails
  · rw [database.findGoal_of_not_fits fits]
    exact .lost (.tooLarge fits)

variable (valid : database.StoresValid) (fit : database.FactsFit)

include valid fit

/-- The answer to a valid request is settled, if the steps of the goal can be queried. -/
theorem settles_answer {id : Int} (positive : ∀ limit, report = .bottlenecks limit → 0 < limit)
    (countable : ∀ goal, database.findGoal scope id = .ok (some goal) →
      ∀ ranges, report.Covers clock request ranges → ∀ range ∈ ranges,
        goal.IsCountableIn database scope range) :
    (answered ((report.answer clock request scope id).result database)).Settles
      (report.Fails database scope clock request id) := by
  cases report with
  | funnel =>
      refine settles_get fun goal found => settles_range fun range _ _ isRange _ inCalendar => ?_
      have covers : Covers clock request .funnel [range] := .funnel isRange
      have goalValid := valid goal (Database.mem_of_findGoal found)
      have isCountable := countable goal found [range] covers range (by simp)
      refine (settles_funnel goalValid fit isCountable).of_iff (failsOn_iff covers ?_)
      rintro ⟨precedes⟩
      exact inCalendar precedes
  | bottlenecks limit =>
      refine settles_get fun goal found => settles_range fun range _ _ isRange _ inCalendar => ?_
      have covers : Covers clock request (.bottlenecks limit) [range] := .bottlenecks isRange
      have goalValid := valid goal (Database.mem_of_findGoal found)
      have isCountable := countable goal found [range] covers range (by simp)
      refine (settles_bottlenecks goalValid fit (positive limit rfl) isCountable).of_iff
        (failsOn_iff covers ?_)
      rintro ⟨precedes⟩
      exact inCalendar precedes
  | comparison =>
      refine settles_get fun goal found => settles_range fun range _ _ isRange spans inCalendar => ?_
      have goalValid := valid goal (Database.mem_of_findGoal found)
      have precedes_iff : PrecedesCalendar clock request .comparison ↔
          request.EarlierPrecedesCalendar clock range := by
        constructor
        · rintro (precedes | ⟨isOther, precedes⟩)
          · exact absurd precedes inCalendar
          · obtain rfl := Except.ok.inj (isRange.symm.trans isOther)
            exact precedes
        · exact .earlier isRange
      rcases earlierRange_cases clock request spans with
        ⟨precedes, escapes⟩ | ⟨earlierInCalendar, ⟨response, refuses, tells⟩ | ⟨earlier, isEarlier⟩⟩
      · rw [escapes]
        exact .lost (.beforeCalendar (precedes_iff.mpr precedes))
      · rw [refuses]
        refine .told ?_ tells
        rintro (precedes | ⟨covers, _⟩)
        · exact earlierInCalendar (precedes_iff.mp precedes)
        · cases covers with
          | comparison isOther isEarlier =>
              obtain rfl := Except.ok.inj (isRange.symm.trans isOther)
              rw [refuses] at isEarlier
              contradiction
      · rw [isEarlier]
        have covers : Covers clock request .comparison [range, earlier] :=
          .comparison isRange isEarlier
        have isCountable := countable goal found _ covers
        exact (settles_comparison goalValid fit (isCountable range (by simp))
          (isCountable earlier (by simp))).of_iff
          (failsOn_iff covers (mt precedes_iff.mp earlierInCalendar))

end Report

end ConversionTracking
