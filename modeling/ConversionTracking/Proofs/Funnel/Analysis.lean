import ConversionTracking.Funnel.Stored
import ConversionTracking.Proofs.Definition.BreakingOff
import ConversionTracking.Proofs.Funnel.Periods
import ConversionTracking.Proofs.Funnel.Rates
import ConversionTracking.Proofs.Store.Definitions

/-!
The analysis of stored funnels. The steps of a stored goal can be read unless one of them has a list for
a type, and what can be counted fits the rates of a report.
-/

namespace ConversionTracking

theorem FunnelStep.result_read_of_listedType {raw : Value} (listed : HasListedType raw) :
    (read raw).result = .error .kindMismatch := by
  obtain ⟨entries, first, rest, rfl, found⟩ := listed
  have isList : givenType entries = .list (first :: rest) := by
    simp [givenType, Entries.field_eq, found, Value.isGiven]
  rw [read_other (by simp [isList]) (by simp [isList]), isList]
  rfl

namespace Goal

def HasListedStep (goal : Goal) : Prop :=
  ∃ steps step, goal.funnelSteps = .list steps ∧ step ∈ steps ∧ FunnelStep.HasListedType step

variable {goal : Goal}

theorem StoresValid.funnelSteps_cases (valid : goal.StoresValid) :
    goal.funnelSteps = .null ∨
      ∃ steps, goal.funnelSteps = .list steps ∧
        ∀ step ∈ steps, FunnelStep.IsReadable step ∨ FunnelStep.HasListedType step := by
  obtain ⟨given, wellFormed, consistent, stores⟩ := valid
  obtain ⟨kept, areKept, _, areGiven⟩ := exists_steps wellFormed.steps stores.funnelSteps
  cases kept with
  | none => exact Or.inl areKept
  | some kept =>
      refine Or.inr ⟨_, areKept, ?_⟩
      rw [List.forall_mem_map]
      intro step isKept
      obtain ⟨original, isOriginal, holds⟩ := areGiven step isKept
      exact FunnelStep.isReadable_of_holds (wellFormed.steps original isOriginal) holds
        (consistent.steps original isOriginal)

theorem StoresValid.configuredSteps_cases (valid : goal.StoresValid) :
    (goal.HasListedStep ∧ goal.funnel.configuredSteps.result = .error .kindMismatch) ∨
      (¬goal.HasListedStep ∧
        ((∃ fault, goal.funnel.configuredSteps.result = .error (.configuration fault)) ∨
          ∃ steps, goal.funnel.configuredSteps.result = .ok steps)) := by
  have asked : goal.funnel.steps = goal.funnelSteps := rfl
  rcases valid.funnelSteps_cases with noSteps | ⟨raws, areSteps, areRead⟩
  · right
    constructor
    · rintro ⟨steps, _, areSteps, _⟩
      rw [noSteps] at areSteps
      contradiction
    · left
      refine ⟨.noFunnelSteps goal.name, ?_⟩
      rw [Funnel.configuredSteps, Funnel.rawSteps, asked, noSteps]
      rfl
  · by_cases noRaws : raws = []
    · right
      constructor
      · rintro ⟨steps, step, areOthers, isStep, _⟩
        obtain rfl := Value.list.inj (areSteps.symm.trans areOthers)
        simp [noRaws] at isStep
      · left
        refine ⟨.noFunnelSteps goal.name, ?_⟩
        rw [Funnel.configuredSteps, Funnel.rawSteps, asked, areSteps, noRaws]
        rfl
    · have isGiven : (Value.list raws).isGiven = true := by
        cases raws with
        | nil => contradiction
        | cons raw rest => rfl
      have configured : goal.funnel.configuredSteps =
          (do
            let steps ← FunnelStep.readAll raws
            return List.zipWith ConfiguredStep.mk raws steps) := by
        rw [Funnel.configuredSteps, Funnel.rawSteps, asked, areSteps, isGiven]
        rfl
      rw [configured, Outcome.result_bind]
      cases readsAll : (FunnelStep.readAll raws).result with
      | ok steps =>
          refine Or.inr ⟨?_, Or.inr ⟨_, rfl⟩⟩
          rintro ⟨others, raw, areOthers, isRaw, listed⟩
          obtain rfl := Value.list.inj (areSteps.symm.trans areOthers)
          exact FunnelStep.not_isReadable_of_listedType listed
            ((GoalDefinition.readAll_eq_ok_iff _).mp ⟨steps, readsAll⟩ raw isRaw)
      | error fault =>
          obtain ⟨before, raw, after, rfl, _, failed⟩ :=
            (FunnelStep.readAll_eq_error_iff _ _).mp readsAll
          have isRaw : raw ∈ before ++ raw :: after := by simp
          rcases areRead raw isRaw with ⟨step, reads⟩ | listed
          · rw [failed] at reads
            contradiction
          · rw [FunnelStep.result_read_of_listedType listed] at failed
            obtain rfl := Except.error.inj failed
            exact Or.inl ⟨⟨_, raw, areSteps, isRaw, listed⟩, rfl⟩

end Goal

namespace Tally

variable {Row : Type} {tally : Tally Row} {range : DateRange} {visitors : List String}

theorem Lists.length_le (lists : tally.Lists range visitors) :
    visitors.length ≤ tally.rows.length := by
  have known : visitors ⊆ tally.rows.filterMap tally.visitorId := by
    intro visitor isVisitor
    obtain ⟨row, isRow, isKnown, _⟩ := (lists.mem_iff visitor).mp isVisitor
    exact List.mem_filterMap.mpr ⟨row, isRow, isKnown⟩
  calc
    visitors.length ≤ (tally.rows.filterMap tally.visitorId).length :=
      (lists.distinct.subperm known).length_le
    _ ≤ tally.rows.length := List.length_filterMap_le _ _

end Tally

/-- The tables of events and of page views have an id for each of their rows. -/
structure Database.FactsFit (database : Database) : Prop where
  events : database.events.length ≤ mostRows
  pageViews : database.pageViews.length ≤ mostRows

namespace Database

variable {database : Database} {scope : Scope} {step : FunnelStep} {range : DateRange}

theorem FactsFit.visitors_length_le (fit : database.FactsFit) {visitors : List String}
    (areVisitors : (database.distinctVisitors scope step range).result = .ok visitors) :
    visitors.length ≤ mostRows := by
  rcases distinctVisitors_cases scope step with ⟨fault, fails⟩ | ⟨Row, tally, isTallied⟩
  · rw [fails] at areVisitors
    contradiction
  · have rows := isTallied.length_le database
    have few := ((isTallied.answered database range).lists visitors areVisitors).length_le
    have events := fit.events
    have pageViews := fit.pageViews
    omega

end Database

/-- Each of the steps that are counted can be queried in the range. -/
def Goal.IsCountableIn (goal : Goal) (database : Database) (scope : Scope) (range : DateRange) : Prop :=
  ∀ steps, goal.funnel.configuredSteps.result = .ok steps → ∀ configured ∈ steps, ∀ step,
    configured.step = some step →
      ∃ visitors, (database.distinctVisitors scope step range).result = .ok visitors

namespace Funnel

variable {count : VisitorCount} {range : DateRange}

theorem exists_countSteps {steps : List ConfiguredStep} {most : Nat}
    (counts : ∀ configured ∈ steps, ∀ step, configured.step = some step → ∀ counted,
      ∃ visitors ≤ most, (count counted step range).result = .ok visitors) (counted : Nat) :
    ∃ visitors, (countSteps count range counted steps).result = .ok visitors ∧
      ∀ number ∈ visitors, number ≤ most := by
  induction steps generalizing counted with
  | nil => exact ⟨[], rfl, by simp⟩
  | cons configured rest ih =>
      obtain ⟨first, others⟩ := List.forall_mem_cons.mp counts
      cases isStep : configured.step with
      | none =>
          obtain ⟨visitors, areVisitors, few⟩ := ih others counted
          refine ⟨0 :: visitors, ?_, List.forall_mem_cons.mpr ⟨Nat.zero_le most, few⟩⟩
          rw [countSteps, isStep]
          simp only [Outcome.result_bind, areVisitors, Outcome.result_pure]
      | some step =>
          obtain ⟨number, fewFirst, isNumber⟩ := first step isStep counted
          obtain ⟨visitors, areVisitors, few⟩ := ih others (counted + 1)
          refine ⟨number :: visitors, ?_, List.forall_mem_cons.mpr ⟨fewFirst, few⟩⟩
          rw [countSteps, isStep]
          simp only [Outcome.result_bind, isNumber, areVisitors, Outcome.result_pure]

end Funnel

namespace Goal

variable {goal : Goal} {database : Database} {scope : Scope} {range : DateRange}

theorem analyze_of_error {fault : Fault}
    (failed : goal.funnel.configuredSteps.result = .error fault) (count : VisitorCount)
    (range : DateRange) : (goal.funnel.analyze count range).result = .error fault := by
  rw [Funnel.analyze, Outcome.result_bind, failed]

theorem IsCountableIn.exists_analysis (countable : goal.IsCountableIn database scope range)
    (fit : database.FactsFit) {steps : List ConfiguredStep}
    (areSteps : goal.funnel.configuredSteps.result = .ok steps) :
    ∃ report, (goal.funnel.analyze (database.visitorCount scope) range).result = .ok report ∧
      report.IsModerate := by
  have counts : ∀ configured ∈ steps, ∀ step, configured.step = some step → ∀ counted,
      ∃ visitors ≤ mostRows,
        (database.visitorCount scope counted step range).result = .ok visitors := by
    intro configured isConfigured step isStep counted
    obtain ⟨visitors, areVisitors⟩ := countable steps areSteps configured isConfigured step isStep
    refine ⟨visitors.length, fit.visitors_length_le areVisitors, ?_⟩
    rw [Database.visitorCount, Outcome.result_bind, areVisitors]
    rfl
  obtain ⟨visitors, areVisitors, few⟩ := Funnel.exists_countSteps counts 0
  refine ⟨goal.funnel.report range steps visitors, ?_, Funnel.report_isModerate _ _ _ few⟩
  rw [Funnel.analyze, Outcome.result_bind, areSteps]
  simp only [Outcome.result_bind, areVisitors, Outcome.result_pure]

end Goal

end ConversionTracking
