import ConversionTracking.Proofs.Funnel.Accounting

/-!
The results that a report gives for the steps of a funnel: one for each step that is configured, at its
position, and each after the first computed from its own visitors and from those of the step before.
-/

namespace ConversionTracking

namespace Funnel

variable {funnel : Funnel} {count : VisitorCount} {range : DateRange} {report : FunnelReport}
  {steps : List ConfiguredStep} {visitors : List Nat}

theorem analyze_eq_ok_iff :
    (funnel.analyze count range).result = .ok report ↔
      ∃ steps visitors, funnel.configuredSteps.result = .ok steps ∧
        (countSteps count range 0 steps).result = .ok visitors ∧
        funnel.report range steps visitors = report := by
  rw [analyze]
  simp only [Outcome.bind_eq_ok_iff, Outcome.result_pure, Except.ok.injEq]
  constructor
  · rintro ⟨steps, areSteps, visitors, areVisitors, isReport⟩
    exact ⟨steps, visitors, areSteps, areVisitors, isReport⟩
  · rintro ⟨steps, visitors, areSteps, areVisitors, isReport⟩
    exact ⟨steps, areSteps, visitors, areVisitors, isReport⟩

theorem length_of_countSteps {counted : Nat}
    (areVisitors : (countSteps count range counted steps).result = .ok visitors) :
    visitors.length = steps.length := by
  induction steps generalizing counted visitors with
  | nil =>
      obtain rfl := Except.ok.inj areVisitors
      rfl
  | cons configured rest ih =>
      rw [countSteps] at areVisitors
      cases isStep : configured.step with
      | none =>
          simp only [isStep, Outcome.bind_eq_ok_iff, Outcome.result_pure,
            Except.ok.injEq] at areVisitors
          obtain ⟨others, areOthers, rfl⟩ := areVisitors
          rw [List.length_cons, List.length_cons, ih areOthers]
      | some step =>
          simp only [isStep, Outcome.bind_eq_ok_iff, Outcome.result_pure,
            Except.ok.injEq] at areVisitors
          obtain ⟨number, _, others, areOthers, rfl⟩ := areVisitors
          rw [List.length_cons, List.length_cons, ih areOthers]

theorem rawSteps_eq_ok_iff {raws : List Value} :
    funnel.rawSteps = .ok raws ↔ funnel.steps = .list raws ∧ raws ≠ [] := by
  rw [rawSteps]
  cases isList : funnel.steps with
  | list items =>
      cases items with
      | nil =>
          simp only [Value.isGiven, Value.list.injEq]
          constructor
          · intro failed
            contradiction
          · rintro ⟨rfl, notEmpty⟩
            contradiction
      | cons first rest =>
          have isGiven : (Value.list (first :: rest)).isGiven = true := rfl
          simp only [isGiven, Bool.not_true, Bool.false_eq_true, if_false, Except.ok.injEq,
            Value.list.injEq]
          constructor
          · rintro rfl
            exact ⟨rfl, List.cons_ne_nil first rest⟩
          · rintro ⟨rfl, _⟩
            rfl
  | _ =>
      simp only [reduceCtorEq, false_and, iff_false]
      split <;> simp

theorem exists_raws (areSteps : funnel.configuredSteps.result = .ok steps) :
    ∃ raws, funnel.steps = .list raws ∧ raws ≠ [] ∧ steps.length = raws.length := by
  simp only [configuredSteps, Outcome.bind_eq_ok_iff, Outcome.result_ofExcept, Outcome.result_pure,
    Except.ok.injEq] at areSteps
  obtain ⟨raws, areRaw, parsed, areParsed, rfl⟩ := areSteps
  have isRaw : funnel.rawSteps = .ok raws := by
    cases read : funnel.rawSteps with
    | error fault =>
        rw [read] at areRaw
        contradiction
    | ok others =>
        rw [read] at areRaw
        obtain rfl := Except.ok.inj areRaw
        rfl
  obtain ⟨isList, notEmpty⟩ := rawSteps_eq_ok_iff.mp isRaw
  refine ⟨raws, isList, notEmpty, ?_⟩
  rw [List.length_zipWith, FunnelStep.length_of_readAll areParsed, Nat.min_self]

theorem positions_of_analyze (isReport : (funnel.analyze count range).result = .ok report) :
    ∃ raws, funnel.steps = .list raws ∧ raws ≠ [] ∧
      report.steps.map StepResult.step = List.range' 1 raws.length := by
  obtain ⟨steps, visitors, areSteps, areVisitors, rfl⟩ := analyze_eq_ok_iff.mp isReport
  obtain ⟨raws, isList, notEmpty, sameLength⟩ := exists_raws areSteps
  refine ⟨raws, isList, notEmpty, ?_⟩
  rw [Funnel.report, stepResults_positions, List.length_zip, length_of_countSteps areVisitors,
    Nat.min_self, sameLength]

theorem exists_stepResult_of_consecutive {position : Nat} {previous : Option Nat}
    {pairs : List (ConfiguredStep × Nat)} {before result : StepResult}
    (consecutive : [before, result] <:+: stepResults position previous pairs) :
    ∃ configured place,
      result = stepResult configured place (some before.visitors) result.visitors := by
  induction pairs generalizing position previous with
  | nil =>
      rw [stepResults, List.infix_nil] at consecutive
      contradiction
  | cons pair rest ih =>
      rw [stepResults, List.infix_cons_iff] at consecutive
      rcases consecutive with isFirst | isLater
      · rw [List.cons_prefix_cons] at isFirst
        obtain ⟨rfl, isNext⟩ := isFirst
        cases rest with
        | nil =>
            rw [stepResults, List.prefix_nil] at isNext
            contradiction
        | cons next others =>
            rw [stepResults, List.cons_prefix_cons] at isNext
            obtain ⟨rfl, _⟩ := isNext
            exact ⟨next.1, position + 1, rfl⟩
      · exact ih isLater

end Funnel

end ConversionTracking
