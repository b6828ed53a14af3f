import ConversionTracking.Proofs.Operations
import ConversionTracking.Proofs.Web.Reports

/-!
Requests for reports on the goals that operations have stored. Each of them is answered, and with an
internal error only where the report fails.
-/

namespace ConversionTracking

inductive Route.IsReport : Route → Prop
  | funnel (id : String) : IsReport (.funnel id)
  | comparison (id : String) : IsReport (.comparison id)
  | bottlenecks (id : String) : IsReport (.bottlenecks id)

namespace Request

/-- The parameters of a request are valid, and this is what it asks for. -/
inductive AsksFor (request : Request) : Route → Report → Scope → Int → Prop
  | funnel {text scope id} (isScope : request.scope = .valid scope)
      (isId : goalId text = .valid id) : AsksFor request (.funnel text) .funnel scope id
  | comparison {text scope id} (isScope : request.scope = .valid scope)
      (isId : goalId text = .valid id) : AsksFor request (.comparison text) .comparison scope id
  | bottlenecks {text scope id limit} (isScope : request.scope = .valid scope)
      (isId : goalId text = .valid id) (isLimit : request.limit = .valid limit) :
      AsksFor request (.bottlenecks text) (.bottlenecks limit) scope id

variable {request : Request} {route : Route}

theorem AsksFor.unique {report other : Report} {scope otherScope : Scope} {id otherId : Int}
    (asks : request.AsksFor route report scope id)
    (asksOther : request.AsksFor route other otherScope otherId) :
    report = other ∧ scope = otherScope ∧ id = otherId := by
  cases asks with
  | funnel isScope isId | comparison isScope isId =>
      cases asksOther with
      | _ isOtherScope isOtherId =>
          exact ⟨rfl, Checked.valid.inj (isScope.symm.trans isOtherScope),
            Checked.valid.inj (isId.symm.trans isOtherId)⟩
  | bottlenecks isScope isId isLimit =>
      cases asksOther with
      | bottlenecks isOtherScope isOtherId isOtherLimit =>
          obtain rfl := Checked.valid.inj (isLimit.symm.trans isOtherLimit)
          exact ⟨rfl, Checked.valid.inj (isScope.symm.trans isOtherScope),
            Checked.valid.inj (isId.symm.trans isOtherId)⟩

theorem checkLimit_positive {number limit : Int} (isLimit : checkLimit number = .valid limit) :
    0 < limit := by
  rw [checkLimit] at isLimit
  split at isLimit
  · contradiction
  · split at isLimit
    · contradiction
    · obtain rfl := Checked.valid.inj isLimit
      omega

theorem limit_positive {limit : Int} (isLimit : request.limit = .valid limit) : 0 < limit := by
  rw [Request.limit] at isLimit
  split at isLimit
  · obtain rfl := Checked.valid.inj isLimit
    decide
  · rw [queryPlace, Checked.within_eq_valid_iff, Checked.within_eq_valid_iff] at isLimit
    split at isLimit
    · exact checkLimit_positive isLimit
    · contradiction

theorem AsksFor.positive {scope : Scope} {id limit : Int}
    (asks : request.AsksFor route (.bottlenecks limit) scope id) : 0 < limit := by
  cases asks with
  | bottlenecks _ _ isLimit => exact limit_positive isLimit

end Request

namespace Respond

open Response

theorem withId_eq_valid_iff (request : Request) (text : String) (scope : Scope) (id : Int) :
    withId request text = .valid (scope, id) ↔
      request.scope = .valid scope ∧ Request.goalId text = .valid id := by
  rw [withId, Checked.seq_eq_valid_iff]
  simp only [Checked.map_eq_valid_iff]
  constructor
  · rintro ⟨_, id, ⟨scope, isScope, rfl⟩, isId, same⟩
    obtain ⟨rfl, rfl⟩ := Prod.mk.inj same
    exact ⟨isScope, isId⟩
  · rintro ⟨isScope, isId⟩
    exact ⟨_, id, ⟨scope, isScope, rfl⟩, isId, rfl⟩

theorem withId_cases (request : Request) (text : String) :
    (∃ scope id, request.scope = .valid scope ∧ Request.goalId text = .valid id ∧
        withId request text = .valid (scope, id)) ∨
      ((¬∃ scope id, request.scope = .valid scope ∧ Request.goalId text = .valid id) ∧
        ∃ issues, withId request text = .invalid issues) := by
  cases checked : withId request text with
  | valid parameters =>
      obtain ⟨scope, id⟩ := parameters
      obtain ⟨isScope, isId⟩ := (withId_eq_valid_iff request text scope id).mp checked
      exact Or.inl ⟨scope, id, isScope, isId, rfl⟩
  | invalid issues =>
      refine Or.inr ⟨?_, issues, rfl⟩
      rintro ⟨scope, id, areValid⟩
      rw [(withId_eq_valid_iff request text scope id).mpr areValid] at checked
      contradiction

theorem route_cases (clock : Instant) (request : Request) {wanted : Route}
    (isReport : wanted.IsReport) :
    (∃ report scope id, request.AsksFor wanted report scope id ∧
        route clock request wanted = report.answer clock request scope id) ∨
      ((¬∃ report scope id, request.AsksFor wanted report scope id) ∧
        ∃ issues, route clock request wanted = pure (.invalid issues)) := by
  cases isReport with
  | funnel text =>
      rcases withId_cases request text with
        ⟨scope, id, isScope, isId, checked⟩ | ⟨notValid, issues, checked⟩
      · exact Or.inl ⟨.funnel, scope, id, .funnel isScope isId, by rw [route, checked]; rfl⟩
      · refine Or.inr ⟨?_, issues, by rw [route, checked]; rfl⟩
        rintro ⟨_, scope, id, asks⟩
        cases asks with
        | funnel isScope isId => exact notValid ⟨scope, id, isScope, isId⟩
  | comparison text =>
      rcases withId_cases request text with
        ⟨scope, id, isScope, isId, checked⟩ | ⟨notValid, issues, checked⟩
      · exact Or.inl ⟨.comparison, scope, id, .comparison isScope isId, by rw [route, checked]; rfl⟩
      · refine Or.inr ⟨?_, issues, by rw [route, checked]; rfl⟩
        rintro ⟨_, scope, id, asks⟩
        cases asks with
        | comparison isScope isId => exact notValid ⟨scope, id, isScope, isId⟩
  | bottlenecks text =>
      rcases withId_cases request text with
        ⟨scope, id, isScope, isId, checked⟩ | ⟨notValid, issues, checked⟩
      · cases isLimit : request.limit with
        | valid limit =>
            exact Or.inl ⟨.bottlenecks limit, scope, id, .bottlenecks isScope isId isLimit,
              by rw [route, checked, isLimit]; rfl⟩
        | invalid issues =>
            refine Or.inr ⟨?_, issues, by rw [route, checked, isLimit]; rfl⟩
            rintro ⟨_, scope, id, asks⟩
            cases asks with
            | bottlenecks _ _ isValid =>
                rw [isLimit] at isValid
                contradiction
      · have refused : ∃ all, Prod.mk <$> withId request text <*> request.limit = .invalid all := by
          rw [checked]
          cases request.limit with
          | valid limit => exact ⟨issues, rfl⟩
          | invalid others => exact ⟨issues ++ others, rfl⟩
        obtain ⟨all, refused⟩ := refused
        refine Or.inr ⟨?_, all, by rw [route, refused]; rfl⟩
        rintro ⟨_, scope, id, asks⟩
        cases asks with
        | bottlenecks isScope isId _ => exact notValid ⟨scope, id, isScope, isId⟩

theorem status_refuseRange_iff (name : String) (fault : CalendarFault) :
    (refuseRange name fault).status = 400 ↔ fault.isRefusal = true := by
  cases refusal : fault.isRefusal <;> simp [refuseRange, refusal, detail, internalError]

theorem result_respond {clock : Instant} {request : Request} {wanted : Route}
    (isGet : request.method = "GET") (isWanted : Route.ofPath? request.path = some wanted)
    (database : Database) :
    (respond clock request).result database =
      .ok (answered ((route clock request wanted).result database)) := by
  have isNotHead : ¬request.method = "HEAD" := by
    rw [isGet]
    decide
  rw [respond, if_neg isNotHead, isWanted]
  dsimp only
  rw [if_pos isGet, Work.result_recover]
  cases (route clock request wanted).result database <;> rfl

end Respond

def Database.ofFacts (ids : IdDraw) (events : List EventFact) (pageViews : List PageViewFact) :
    Database :=
  { Database.empty ids with events, pageViews }

theorem Database.storesValid_ofFacts (ids : IdDraw) (events : List EventFact)
    (pageViews : List PageViewFact) : (ofFacts ids events pageViews).StoresValid := by
  intro goal isGoal
  contradiction

namespace Operation

theorem factsFit_after (operation : Operation) {database : Database} (fit : database.FactsFit) :
    (operation.after database).FactsFit := by
  cases operation with
  | service scope call =>
      have same : { database with goals := (call.after scope database).goals } =
          call.after scope database := call.sameButGoals scope database
      rw [after, ← same]
      exact ⟨fit.events, fit.pageViews⟩
  | insert fields =>
      rw [after, Conversions.after_insert]
      exact ⟨fit.events, fit.pageViews⟩
  | evaluate settings trigger session visitor =>
      rw [after, Matcher.after_evaluate]
      exact ⟨fit.events, fit.pageViews⟩

theorem factsFit_run (operations : List Operation) {database : Database}
    (fit : database.FactsFit) : (run operations database).FactsFit := by
  induction operations generalizing database with
  | nil => exact fit
  | cons operation rest ih => exact ih (operation.factsFit_after fit)

/-- The ends of a range give one or are refused, unless they lead before the calendar. So a request for
a report is answered with the report or with what is wrong with it, unless it fails in one of the ways
that end in an internal error. -/
theorem reports_settle {ids : IdDraw} (operations : List Operation) {events : List EventFact}
    {pageViews : List PageViewFact} (fit : (Database.ofFacts ids events pageViews).FactsFit)
    (clock : Instant) {request : Request} {wanted : Route} (isGet : request.method = "GET")
    (isWanted : Route.ofPath? request.path = some wanted) (isReport : wanted.IsReport)
    (countable : ∀ report scope id goal ranges, request.AsksFor wanted report scope id →
      (run operations (.ofFacts ids events pageViews)).findGoal scope id = .ok (some goal) →
      report.Covers clock request ranges → ∀ range ∈ ranges,
        goal.IsCountableIn (run operations (.ofFacts ids events pageViews)) scope range) :
    let database := run operations (.ofFacts ids events pageViews)
    (∀ name start finish,
      ((∃ range, Period.ofEnds clock start finish = .ok range) ∨
        ∃ fault, Period.ofEnds clock start finish = .error fault ∧
          (Respond.refuseRange name fault).status = 400) ↔
        ¬Period.PrecedesCalendar clock start finish) ∧
    ∃ response, (Respond.respond clock request).result database = .ok response ∧
      response.Settles (∃ report scope id, request.AsksFor wanted report scope id ∧
        report.Fails database scope clock request id) := by
  intro database
  have valid := storesValid_run operations (Database.storesValid_ofFacts ids events pageViews)
  refine ⟨fun name start finish => ?_, _, Respond.result_respond isGet isWanted database, ?_⟩
  · simp only [Respond.status_refuseRange_iff]
    exact Period.ofEnds_answers_iff clock start finish
  · rcases Respond.route_cases clock request isReport with
      ⟨report, scope, id, asks, answers⟩ | ⟨asksNothing, issues, refuses⟩
    · rw [answers]
      have isPositive : ∀ limit, report = .bottlenecks limit → 0 < limit := by
        intro limit isBottlenecks
        subst isBottlenecks
        exact asks.positive
      refine (Report.settles_answer valid (factsFit_run operations fit) isPositive
        fun goal found ranges => countable report scope id goal ranges asks found).of_iff ?_
      constructor
      · exact fun fails => ⟨report, scope, id, asks, fails⟩
      · rintro ⟨_, _, _, asksOther, fails⟩
        obtain ⟨rfl, rfl, rfl⟩ := asks.unique asksOther
        exact fails
    · rw [refuses]
      refine .told ?_ (by simp [Response.Tells, Respond.answered, Response.invalid])
      rintro ⟨report, scope, id, asks, _⟩
      exact asksNothing ⟨report, scope, id, asks⟩

def createSignupFunnel : Operation :=
  .service .everything (.create
    [(.text "name", .text "Signup"), (.text "type", .text "event"),
      (.text "funnel_steps", .list
        [.map [(.text "type", .text "event"), (.text "event_name", .text "signup")]])])

def oneSignup : List EventFact := [Database.signupFor "pro" "first" 1]

def funnelOfSignupDay : Request :=
  ⟨"GET", "/goals/1/funnel", [("start", "2024-01-10"), ("end", "2024-01-10")]⟩

def stepsAreCounted (database : Database) (id : Int) (range : DateRange) : Bool :=
  match database.findGoal .everything id with
  | .ok (some goal) =>
      match goal.funnel.configuredSteps.result with
      | .ok steps => steps.all fun configured => configured.step.all fun step =>
          (database.distinctVisitors .everything step range).result.isOk
      | .error _ => true
  | _ => true

theorem isCountableIn_of_stepsAreCounted {database : Database} {id : Int} {range : DateRange}
    (counted : stepsAreCounted database id range = true) {goal : Goal}
    (found : database.findGoal .everything id = .ok (some goal)) :
    goal.IsCountableIn database .everything range := by
  intro steps areSteps configured isConfigured step isStep
  rw [stepsAreCounted, found] at counted
  dsimp only at counted
  rw [areSteps] at counted
  have isOk := List.all_eq_true.mp counted configured isConfigured
  rw [isStep, Option.all_some] at isOk
  cases result : (database.distinctVisitors .everything step range).result with
  | ok visitors => exact ⟨visitors, rfl⟩
  | error fault =>
      rw [result] at isOk
      contradiction

theorem signup_funnel_sent :
    let database := run [createSignupFunnel] (.ofFacts .lowest oneSignup [])
    let clock := Instant.startOfDay Database.signupDay
    ∃ response, (Respond.respond clock funnelOfSignupDay).result database = .ok response ∧
      response.status = 200 ∧
      ¬∃ report scope id, funnelOfSignupDay.AsksFor (.funnel "1") report scope id ∧
        report.Fails database scope clock funnelOfSignupDay id := by
  intro database clock
  have fit : (Database.ofFacts .lowest oneSignup []).FactsFit := ⟨by decide, by decide⟩
  have isWanted : Route.ofPath? funnelOfSignupDay.path = some (.funnel "1") := by decide +kernel
  have isEverything : funnelOfSignupDay.scope = .valid .everything := by rfl
  have isFirst : Request.goalId "1" = .valid 1 := by rfl
  have isDay : funnelOfSignupDay.range clock = .ok Database.signupRange := by decide +kernel
  have counted : stepsAreCounted database 1 Database.signupRange = true := by decide +kernel
  have sent : ((Respond.respond clock funnelOfSignupDay).result database).map (·.status) =
      .ok 200 := by
    decide +kernel
  obtain ⟨_, response, isResponse, settles⟩ := reports_settle [createSignupFunnel] fit clock rfl
    isWanted (.funnel "1") (by
      intro report scope id goal ranges asks found covers range isCovered
      cases asks with
      | funnel isScope isId =>
          obtain rfl := Checked.valid.inj (isEverything.symm.trans isScope)
          obtain rfl := Checked.valid.inj (isFirst.symm.trans isId)
          cases covers with
          | funnel isRange =>
              obtain rfl := List.mem_singleton.mp isCovered
              obtain rfl := Except.ok.inj (isDay.symm.trans isRange)
              exact isCountableIn_of_stepsAreCounted counted found)
  rw [isResponse] at sent
  have isOk : response.status = 200 := Except.ok.inj sent
  refine ⟨response, isResponse, isOk, ?_⟩
  cases settles with
  | told holds _ => exact holds
  | lost _ => contradiction

/-- The start of a funnel that ends on the fifteenth day of the calendar, and the period before its
first day, lie before the calendar: both requests end in an internal error. -/
theorem early_dates_escape :
    let database := run [createSignupFunnel] .empty
    let statusOf (path : String) (query : List (String × String)) : Except Fault Nat :=
      ((Respond.respond (.startOfDay Database.signupDay) ⟨"GET", path, query⟩).result
        database).map (·.status)
    statusOf "/goals/1/funnel" [("end", "0001-01-15")] = .ok 500 ∧
      statusOf "/goals/1/funnel/compare" [("start", "0001-01-01"), ("end", "0001-01-01")] =
        .ok 500 := by
  decide +kernel

end Operation

end ConversionTracking
