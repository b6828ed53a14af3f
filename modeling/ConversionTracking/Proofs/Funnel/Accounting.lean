import ConversionTracking.Funnel.Body
import ConversionTracking.Proofs.Funnel.Analysis
import Mathlib.Data.Finset.Card
import Mathlib.Data.List.ReduceOption

/-!
The account that a report gives of the visitors of its steps. Each step is counted by one question about
that step alone, steps of unknown types by none. What is lost from step to step, less what is gained, is
what is lost between the first step and the last.
-/

namespace ConversionTracking

/-- Answers a question about a step with a set of visitors, given the number of questions before. -/
abbrev VisitorQuery := Nat → FunnelStep → DateRange → Outcome (Finset String)

namespace VisitorQuery

def sizes (query : VisitorQuery) : VisitorCount :=
  fun asked step range => return (← query asked step range).card

/-- The visitors of the steps. Each step of a known type has those of the answer to a question about it,
and a step of an unknown type has none. -/
inductive Finds (query : VisitorQuery) (range : DateRange) :
    Nat → List (Option FunnelStep) → List (Finset String) → Prop where
  | nil (asked : Nat) : Finds query range asked [] []
  | unknown {asked : Nat} {rest : List (Option FunnelStep)} {others : List (Finset String)}
      (found : Finds query range asked rest others) :
      Finds query range asked (none :: rest) (∅ :: others)
  | known {asked : Nat} {step : FunnelStep} {visitors : Finset String}
      {rest : List (Option FunnelStep)} {others : List (Finset String)}
      (answered : (query asked step range).result = .ok visitors)
      (found : Finds query range (asked + 1) rest others) :
      Finds query range asked (some step :: rest) (visitors :: others)

def notices (query : VisitorQuery) (range : DateRange) (asked : Nat)
    (steps : List (Option FunnelStep)) : List Notice :=
  (steps.reduceOption.zipIdx asked).flatMap fun (step, asked) => (query asked step range).notices

variable {query : VisitorQuery} {range : DateRange} {asked : Nat} {steps : List (Option FunnelStep)}

theorem exists_finds
    (answered : ∀ question ∈ steps.reduceOption.zipIdx asked, ∃ visitors,
      (query question.2 question.1 range).result = .ok visitors) :
    ∃ found, Finds query range asked steps found := by
  induction steps generalizing asked with
  | nil => exact ⟨[], .nil asked⟩
  | cons step rest ih =>
      cases step with
      | none =>
          obtain ⟨others, found⟩ := ih answered
          exact ⟨∅ :: others, .unknown found⟩
      | some step =>
          rw [List.reduceOption_cons_of_some, List.zipIdx_cons, List.forall_mem_cons] at answered
          obtain ⟨⟨visitors, isAnswer⟩, restAnswered⟩ := answered
          obtain ⟨others, found⟩ := ih restAnswered
          exact ⟨visitors :: others, .known isAnswer found⟩

theorem Finds.length_eq {found : List (Finset String)} (finds : Finds query range asked steps found) :
    found.length = steps.length := by
  induction finds with
  | nil => rfl
  | unknown _ ih => rw [List.length_cons, List.length_cons, ih]
  | known _ _ ih => rw [List.length_cons, List.length_cons, ih]

end VisitorQuery

theorem Outcome.bind_of_ok {α β : Type} {first : Outcome α} {value : α}
    (isOk : first.result = .ok value) (next : α → Outcome β) :
    first >>= next = ⟨(next value).result, first.notices ++ (next value).notices⟩ := by
  change Outcome.bind first next = _
  rw [Outcome.bind, isOk]

namespace Database

variable (database : Database) (scope : Scope)

def visitorQuery : VisitorQuery :=
  fun _ step range => return (← database.distinctVisitors scope step range).toFinset

theorem nodup_of_distinctVisitors {step : FunnelStep} {range : DateRange} {visitors : List String}
    (isFound : (database.distinctVisitors scope step range).result = .ok visitors) :
    visitors.Nodup := by
  rcases distinctVisitors_cases scope step with ⟨fault, fails⟩ | ⟨Row, tally, isTallied⟩
  · cases (fails database range).symm.trans isFound
  · exact ((isTallied.answered database range).lists visitors isFound).distinct

theorem visitorQuery_sizes : (database.visitorQuery scope).sizes = database.visitorCount scope := by
  funext asked step range
  rw [VisitorQuery.sizes, visitorQuery, visitorCount]
  cases isFound : (database.distinctVisitors scope step range).result with
  | error fault => simp only [bind, Outcome.bind, isFound]
  | ok visitors =>
      have isSize := List.toFinset_card_of_nodup (database.nodup_of_distinctVisitors scope isFound)
      rw [Outcome.bind_of_ok isFound, Outcome.bind_of_ok isFound, Outcome.bind_of_ok rfl, isSize]
      exact congrArg _ (List.append_nil _)

end Database

theorem FunnelStep.length_of_readAll {raws : List Value} {steps : List (Option FunnelStep)}
    (areRead : (readAll raws).result = .ok steps) : steps.length = raws.length := by
  induction raws generalizing steps with
  | nil =>
      obtain rfl := Except.ok.inj areRead
      rfl
  | cons raw rest ih =>
      simp only [readAll, Outcome.bind_eq_ok_iff, Outcome.result_pure, Except.ok.injEq] at areRead
      obtain ⟨step, _, others, othersRead, rfl⟩ := areRead
      rw [List.length_cons, List.length_cons, ih othersRead]

namespace Funnel

variable {query : VisitorQuery} {range : DateRange} {asked : Nat}

theorem countSteps_of_finds {steps : List ConfiguredStep} {found : List (Finset String)}
    (finds : query.Finds range asked (steps.map ConfiguredStep.step) found) :
    countSteps query.sizes range asked steps =
      ⟨.ok (found.map Finset.card), query.notices range asked (steps.map ConfiguredStep.step)⟩ := by
  induction steps generalizing asked found with
  | nil =>
      cases finds
      rfl
  | cons configured rest ih =>
      rw [List.map_cons] at finds ⊢
      rw [countSteps]
      generalize configured.step = step at finds ⊢
      cases finds with
      | unknown found =>
          dsimp only
          rw [ih found, Outcome.bind_of_ok rfl]
          exact congrArg _ (List.append_nil _)
      | @known _ step visitors _ others isAnswer found =>
          have isSize : (query.sizes asked step range).result = .ok visitors.card := by
            rw [VisitorQuery.sizes, Outcome.bind_of_ok isAnswer, Outcome.result_pure]
          have isNoted : (query.sizes asked step range).notices =
              (query asked step range).notices := by
            rw [VisitorQuery.sizes, Outcome.bind_of_ok isAnswer]
            exact List.append_nil _
          dsimp only
          rw [Outcome.bind_of_ok isSize, ih found, isNoted]
          simp [VisitorQuery.notices, List.zipIdx_cons, bind, Outcome.bind, pure, Outcome.pure]

end Funnel

def drops (counts : List Nat) : List Int :=
  List.zipWith (fun before after : Nat => max 0 ((before : Int) - after)) counts counts.tail

def gains (counts : List Nat) : List Int :=
  List.zipWith (fun before after : Nat => max 0 ((after : Int) - before)) counts counts.tail

theorem drops_cons_cons (first second : Nat) (rest : List Nat) :
    drops (first :: second :: rest) =
      max 0 ((first : Int) - second) :: drops (second :: rest) := rfl

theorem gains_cons_cons (first second : Nat) (rest : List Nat) :
    gains (first :: second :: rest) =
      max 0 ((second : Int) - first) :: gains (second :: rest) := rfl

theorem sum_drops_sub_sum_gains (first : Nat) (rest : List Nat) {last : Nat}
    (isLast : (first :: rest).getLast? = some last) :
    (drops (first :: rest)).sum - (gains (first :: rest)).sum = (first : Int) - last := by
  induction rest generalizing first with
  | nil =>
      obtain rfl := Option.some.inj isLast
      simp [drops, gains]
  | cons second rest ih =>
      rw [List.getLast?_cons_cons] at isLast
      have balance := ih second isLast
      rw [drops_cons_cons, gains_cons_cons, List.sum_cons, List.sum_cons]
      omega

theorem sum_gains_nonneg (counts : List Nat) : 0 ≤ (gains counts).sum := by
  induction counts with
  | nil => exact Int.le_refl 0
  | cons first rest ih =>
      cases rest with
      | nil => exact Int.le_refl 0
      | cons second rest =>
          rw [gains_cons_cons, List.sum_cons]
          omega

theorem sum_gains_eq_zero_iff (counts : List Nat) :
    (gains counts).sum = 0 ↔ counts.IsChain fun before after => after ≤ before := by
  induction counts with
  | nil => exact iff_of_true rfl .nil
  | cons first rest ih =>
      cases rest with
      | nil => exact iff_of_true rfl (.singleton first)
      | cons second rest =>
          have nonneg := sum_gains_nonneg (second :: rest)
          rw [gains_cons_cons, List.sum_cons, List.isChain_cons_cons, ← ih]
          omega

namespace Funnel

variable (position : Nat) (previous : Option Nat) (pairs : List (ConfiguredStep × Nat))

theorem stepResults_positions :
    (stepResults position previous pairs).map StepResult.step =
      List.range' position pairs.length := by
  induction pairs generalizing position previous with
  | nil => rfl
  | cons pair rest ih =>
      rw [stepResults, List.map_cons, ih, List.length_cons, List.range'_succ]
      rfl

theorem stepResults_visitors :
    (stepResults position previous pairs).map StepResult.visitors = pairs.map Prod.snd := by
  induction pairs generalizing position previous with
  | nil => rfl
  | cons pair rest ih =>
      rw [stepResults, List.map_cons, ih, List.map_cons]
      rfl

theorem stepResults_dropoffs (before : Nat) :
    (stepResults position (some before) pairs).map (fun result => (result.dropoffCount : Int)) =
      drops (before :: pairs.map Prod.snd) := by
  induction pairs generalizing position before with
  | nil => rfl
  | cons pair rest ih =>
      rw [stepResults, List.map_cons, ih, List.map_cons, drops_cons_cons]
      have lost : ((stepResult pair.1 position (some before) pair.2).dropoffCount : Int) =
          max 0 ((before : Int) - pair.2) := by
        simp only [stepResult, Option.getD_some]
        omega
      rw [lost]

end Funnel

namespace FunnelReport

def totalDropoff (report : FunnelReport) : Int :=
  (report.entryVisitors : Int) - report.completedVisitors

theorem step_totalDropoff (report : FunnelReport) :
    report.body.step "total_dropoff" = .ok (.int report.totalDropoff) := by
  simp [body, Value.record, Value.step, Entries.field_eq, totalDropoff]

def dropoffs (report : FunnelReport) : List Int :=
  report.steps.map fun result => (result.dropoffCount : Int)

/-- The report gives these visitors of the steps, in order, and what is lost on the way. -/
structure Accounts (report : FunnelReport) (counts : List Nat) : Prop where
  positions : report.steps.map StepResult.step = List.range' 1 counts.length
  visitors : report.steps.map StepResult.visitors = counts
  dropoffs : report.dropoffs = 0 :: drops counts
  entry : counts.head? = some report.entryVisitors
  completed : counts.getLast? = some report.completedVisitors
  sent : report.body.step "total_dropoff" = .ok (.int report.totalDropoff)
  balance : report.dropoffs.sum - (gains counts).sum = report.totalDropoff
  bound : report.totalDropoff ≤ report.dropoffs.sum
  bound_iff : report.totalDropoff = report.dropoffs.sum ↔
    counts.IsChain fun before after => after ≤ before

end FunnelReport

namespace Funnel

variable (funnel : Funnel) {query : VisitorQuery} {range : DateRange}

theorem report_accounts (range : DateRange) {steps : List ConfiguredStep} {first : Nat}
    {rest : List Nat} (sameLength : steps.length = (first :: rest).length) :
    (funnel.report range steps (first :: rest)).Accounts (first :: rest) := by
  obtain ⟨configured, others, rfl⟩ := List.exists_cons_of_length_eq_add_one sameLength
  have areVisitors : ((configured :: others).zip (first :: rest)).map Prod.snd = first :: rest :=
    List.map_snd_zip (Nat.le_of_eq sameLength.symm)
  have dropoffs : (funnel.report range (configured :: others) (first :: rest)).dropoffs =
      0 :: drops (first :: rest) := by
    have restVisitors : (others.zip rest).map Prod.snd = rest :=
      List.map_snd_zip (Nat.le_of_eq (Nat.succ.inj sameLength).symm)
    have restDropoffs := stepResults_dropoffs 2 (others.zip rest) first
    rw [restVisitors] at restDropoffs
    rw [FunnelReport.dropoffs, ← restDropoffs]
    simp [report, stepResults, stepResult]
  obtain ⟨last, isLast⟩ : ∃ last, (first :: rest).getLast? = some last :=
    ⟨_, List.getLast?_eq_some_getLast (List.cons_ne_nil first rest)⟩
  have completed : (funnel.report range (configured :: others) (first :: rest)).completedVisitors =
      last := by
    simp only [report, isLast, Option.getD_some]
  have balance := sum_drops_sub_sum_gains first rest isLast
  have nonneg := sum_gains_nonneg (first :: rest)
  have total : (funnel.report range (configured :: others) (first :: rest)).totalDropoff =
      (first : Int) - last := by
    rw [FunnelReport.totalDropoff, completed]
    rfl
  refine ⟨?_, ?_, dropoffs, rfl, by rw [completed, isLast],
    FunnelReport.step_totalDropoff _, ?_, ?_, ?_⟩
  · rw [report, stepResults_positions, List.length_zip, sameLength, Nat.min_self]
  · rw [report, stepResults_visitors, areVisitors]
  · rw [dropoffs, total, List.sum_cons]
    omega
  · rw [dropoffs, total, List.sum_cons]
    omega
  · rw [dropoffs, total, List.sum_cons, ← sum_gains_eq_zero_iff]
    omega

theorem configuredSteps_of_list {raws : List Value} {parsed : List (Option FunnelStep)}
    (areSteps : funnel.steps = .list raws) (notEmpty : raws ≠ [])
    (parses : (FunnelStep.readAll raws).result = .ok parsed) :
    funnel.configuredSteps =
      ⟨.ok (List.zipWith ConfiguredStep.mk raws parsed), (FunnelStep.readAll raws).notices⟩ := by
  have areRaw : funnel.rawSteps = .ok raws := by
    obtain ⟨raw, rest, rfl⟩ := List.exists_cons_of_ne_nil notEmpty
    rw [rawSteps, areSteps]
    rfl
  rw [configuredSteps, areRaw]
  change FunnelStep.readAll raws >>= _ = _
  rw [Outcome.bind_of_ok parses]
  exact congrArg _ (List.append_nil _)

/-- The analysis of a funnel with steps that can be read, when the query answers a question about each
of known type. These questions are all that is asked. -/
theorem analyze_accounts {raws : List Value} {parsed : List (Option FunnelStep)}
    (areSteps : funnel.steps = .list raws) (notEmpty : raws ≠ [])
    (parses : (FunnelStep.readAll raws).result = .ok parsed)
    (answers : ∀ question ∈ parsed.reduceOption.zipIdx, ∃ visitors,
      (query question.2 question.1 range).result = .ok visitors) :
    ∃ found report, query.Finds range 0 parsed found ∧ found.length = raws.length ∧
      funnel.analyze query.sizes range =
        ⟨.ok report, (FunnelStep.readAll raws).notices ++ query.notices range 0 parsed⟩ ∧
      report.Accounts (found.map Finset.card) := by
  obtain ⟨found, finds⟩ := VisitorQuery.exists_finds answers
  have sameLength := FunnelStep.length_of_readAll parses
  have areParsed : (List.zipWith ConfiguredStep.mk raws parsed).map ConfiguredStep.step = parsed := by
    rw [← List.map_uncurry_zip_eq_zipWith, List.map_map]
    exact List.map_snd_zip (Nat.le_of_eq sameLength)
  have foundLength : found.length = raws.length := finds.length_eq.trans sameLength
  have counted := countSteps_of_finds (areParsed.symm ▸ finds)
  have isReport : funnel.analyze query.sizes range =
      ⟨.ok (funnel.report range (List.zipWith ConfiguredStep.mk raws parsed)
        (found.map Finset.card)),
        (FunnelStep.readAll raws).notices ++ query.notices range 0 parsed⟩ := by
    rw [analyze, funnel.configuredSteps_of_list areSteps notEmpty parses, Outcome.bind_of_ok rfl,
      counted, areParsed, Outcome.bind_of_ok rfl]
    exact congrArg _ (congrArg _ (List.append_nil _))
  refine ⟨found, _, finds, foundLength, isReport, ?_⟩
  obtain ⟨visitors, others, rfl⟩ := List.exists_cons_of_ne_nil
    (List.ne_nil_of_length_pos (foundLength ▸ List.length_pos_of_ne_nil notEmpty))
  refine funnel.report_accounts range ?_
  rw [List.length_zipWith, sameLength, Nat.min_self, ← foundLength, List.length_cons,
    List.length_cons, List.length_map]

theorem stored_analyze_eq (scope : Scope) (goal : Goal) (range : DateRange) :
    FunnelReports.analyze scope goal range = Work.inspect fun database =>
      goal.funnel.analyze (database.visitorQuery scope).sizes range := by
  simp only [FunnelReports.analyze, Database.visitorQuery_sizes]

def callSteps : List Value :=
  [.map [(.text "type", .text "event"), (.text "name", .text "signup")],
    .map [(.text "type", .text "call")],
    .map [(.text "type", .text "pageview"), (.text "path", .text "/pricing")]]

def growingQuery : VisitorQuery :=
  fun asked _ _ =>
    pure (if asked = 0 then {"v1", "v2", "v3"} else {"v1", "v2", "v3", "v4"})

theorem calls_accounted :
    let funnel : Funnel := { goalId := 1, goalName := "Calls", steps := .list callSteps }
    (∃ parsed, (FunnelStep.readAll callSteps).result = .ok parsed ∧
      ∀ question ∈ parsed.reduceOption.zipIdx, ∃ visitors,
        (growingQuery question.2 question.1 Database.signupRange).result = .ok visitors) ∧
    ∃ report, (funnel.analyze growingQuery.sizes Database.signupRange).result = .ok report ∧
      report.Accounts [3, 0, 4] := by
  intro funnel
  have known : (FunnelStep.readAll callSteps).result.map (·.map Option.isSome) =
      .ok [true, false, true] := by
    decide +kernel
  cases parses : (FunnelStep.readAll callSteps).result with
  | error fault =>
      rw [parses] at known
      cases known
  | ok parsed =>
      have answers : ∀ question ∈ parsed.reduceOption.zipIdx, ∃ visitors,
          (growingQuery question.2 question.1 Database.signupRange).result = .ok visitors :=
        fun _ _ => ⟨_, rfl⟩
      refine ⟨⟨parsed, rfl, answers⟩, ?_⟩
      obtain ⟨found, report, finds, _, isReport, accounts⟩ :=
        funnel.analyze_accounts rfl (by decide) parses answers
      refine ⟨report, congrArg Outcome.result isReport, ?_⟩
      rw [parses] at known
      obtain ⟨signup, _, rfl, signupKnown, known⟩ := List.map_eq_cons_iff.mp (Except.ok.inj known)
      obtain ⟨call, _, rfl, callUnknown, known⟩ := List.map_eq_cons_iff.mp known
      obtain ⟨visit, _, rfl, visitKnown, known⟩ := List.map_eq_cons_iff.mp known
      obtain rfl := List.map_eq_nil_iff.mp known
      obtain ⟨signup, rfl⟩ := Option.isSome_iff_exists.mp signupKnown
      obtain rfl := Option.isNone_iff_eq_none.mp (Option.isSome_eq_false_iff.mp callUnknown)
      obtain ⟨visit, rfl⟩ := Option.isSome_iff_exists.mp visitKnown
      cases finds with
      | known first rest =>
          cases rest with
          | unknown rest =>
              cases rest with
              | known second rest =>
                  cases rest
                  obtain rfl := Except.ok.inj first
                  obtain rfl := Except.ok.inj second
                  exact accounts

end Funnel

end ConversionTracking
