import ConversionTracking.Proofs.Funnel.PageViews
import ConversionTracking.Proofs.Pattern.Refusals

/-!
What a regular expression for paths that is refused does to the goals and the funnel steps that give it.
-/

namespace ConversionTracking

variable {regex : String} {fault : Pattern.Fault}

def refusedRule (fault : Pattern.Fault) : Fault :=
  if fault = .malformed then .definition .invalidPathPattern else .pattern fault

theorem regexAccepts_of_refused (refused : Pattern.compile regex = .error fault) (path : Value) :
    regexAccepts regex path = .error (refusedRule fault) := by
  rw [regexAccepts, refused]
  cases fault <;> rfl

theorem PathRules.satisfiedBy_of_regex {rules : PathRules} {trigger : Trigger} {path : Value}
    (hasPath : trigger.require .path = .ok path) (noExact : rules.exact = none)
    (noPattern : rules.pattern = none) (isRegex : rules.regex = some regex) :
    rules.satisfiedBy trigger = regexAccepts regex path := by
  simp only [satisfiedBy, hasPath, noExact, noPattern, isRegex, bind, Except.bind]

namespace Database

variable (database : Database) (scope : Scope) (range : DateRange) {step : PageViewStep}

theorem result_visitors_of_refused (isRegex : step.regex = some regex)
    (refused : Pattern.compile regex = .error fault) :
    (database.distinctVisitors scope (.pageView step) range).result =
      if fault = .malformed then .ok [] else .error (.pattern fault) := by
  have compiled : step.compiled = .error fault := by
    simp only [PageViewStep.compiled, isRegex, refused, Except.map]
  have isTested : (step.pattern.isNone && step.regex.isNone) = false := by simp [isRegex]
  simp only [distinctVisitors, pageViewVisitors, isTested, testedPageViewVisitors, compiled]
  cases fault <;> rfl

end Database

/-- A refused regular expression counts as a fault of the goal, and finds nobody for a step, if and only
if it is malformed. Any other refusal has its reason in the text, and goals and steps fail with it. -/
theorem refused_paths (refused : Pattern.compile regex = .error fault) :
    Pattern.HasReason (Pattern.source regex).1.toList fault ∧
    (∀ (rules : PathRules) (trigger : Trigger) (path : Value),
      rules.exact = none → rules.pattern = none → rules.regex = some regex →
      trigger.require .path = .ok path →
      (rules.satisfiedBy trigger = .error (.definition .invalidPathPattern) ↔ fault = .malformed) ∧
      (fault ≠ .malformed → rules.satisfiedBy trigger = .error (.pattern fault))) ∧
    ∀ (database : Database) (scope : Scope) (range : DateRange) (step : PageViewStep),
      step.regex = some regex →
      ((database.distinctVisitors scope (.pageView step) range).result = .ok [] ↔
        fault = .malformed) ∧
      (fault ≠ .malformed →
        (database.distinctVisitors scope (.pageView step) range).result = .error (.pattern fault)) := by
  refine ⟨Pattern.hasReason_of_compile refused, ?_, ?_⟩
  · intro rules trigger path noExact noPattern isRegex hasPath
    rw [PathRules.satisfiedBy_of_regex hasPath noExact noPattern isRegex,
      regexAccepts_of_refused refused, refusedRule]
    by_cases isMalformed : fault = .malformed
    · simp [isMalformed]
    · simp [isMalformed]
  · intro database scope range step isRegex
    rw [database.result_visitors_of_refused scope range isRegex refused]
    by_cases isMalformed : fault = .malformed
    · simp [isMalformed]
    · simp [isMalformed]

section Regexes

open Database (pricingViews signupRange)

def PathRules.ofRegex (regex : String) : PathRules := ⟨none, none, some regex, none⟩

def pricingVisit : Trigger :=
  .pageView {
    path := .text "/pricing"
    title := .null
    sessionId := .null
    visitorId := .null
    id := .null }

def PageViewStep.ofRegex (regex : String) : PageViewStep := ⟨none, none, none, none, some regex, none⟩

theorem bracket_contained :
    (PathRules.ofRegex "[").satisfiedBy pricingVisit =
        .error (.definition .invalidPathPattern) ∧
      (pricingViews.distinctVisitors .everything (.pageView (.ofRegex "[")) signupRange).result =
        .ok [] := by
  have malformed : Pattern.compile "[" = .error .malformed :=
    (Pattern.refusal?_eq_some_iff _ _).mp (by decide +kernel)
  obtain ⟨_, ofRules, ofSteps⟩ := refused_paths malformed
  refine ⟨?_, ?_⟩
  · exact (ofRules (.ofRegex "[") pricingVisit (.text "/pricing") rfl rfl rfl rfl).1.mpr rfl
  · exact (ofSteps pricingViews .everything signupRange (.ofRegex "[") rfl).1.mpr rfl

/-- A count of 4294967296 is refused for its size, and the refusal escapes from goals and from steps. -/
theorem large_count_escapes :
    let regex := "a\x7b4294967296\x7d"
    Pattern.compile regex = .error .repetitionTooLarge ∧
      (PathRules.ofRegex regex).satisfiedBy pricingVisit = .error (.pattern .repetitionTooLarge) ∧
      (pricingViews.distinctVisitors .everything (.pageView (.ofRegex regex)) signupRange).result =
        .error (.pattern .repetitionTooLarge) := by
  intro regex
  have tooLarge : Pattern.compile regex = .error .repetitionTooLarge :=
    (Pattern.refusal?_eq_some_iff _ _).mp (by decide +kernel)
  refine ⟨tooLarge, regexAccepts_of_refused tooLarge (.text "/pricing"), ?_⟩
  exact pricingViews.result_visitors_of_refused .everything signupRange rfl tooLarge

end Regexes

end ConversionTracking
