import ConversionTracking.Proofs.Funnel.Visitors
import ConversionTracking.Proofs.Text.Like

/-!
The visitors of a page view step. Three of its filters accept the paths that a goal with that rule
alone accepts. The fourth, for a text in the path, does not tell the cases of ASCII letters apart, as
the rule of a goal does.
-/

namespace ConversionTracking

namespace PageViewFact

def trigger (fact : PageViewFact) : Trigger :=
  .pageView {
    path := .text fact.path
    title := .null
    sessionId := .null
    visitorId := (fact.visitorId.map Value.text).getD .null
    id := .int fact.id }

def IsWithin (fact : PageViewFact) (scope : Scope) (range : DateRange) : Prop :=
  scope.Covers range fact.siteId fact.tenantId fact.createdAt

end PageViewFact

namespace PathRules

variable (fact : PageViewFact)

theorem satisfiedBy_exact (path : String) :
    satisfiedBy ⟨some path, none, none, none⟩ fact.trigger = .ok (fact.path == path) :=
  congrArg Except.ok (Value.text_equals_text fact.path path)

theorem satisfiedBy_pattern (pattern : String) :
    satisfiedBy ⟨none, some pattern, none, none⟩ fact.trigger =
      .ok (globMatches pattern (some fact.path)) := rfl

theorem searchedPath_text (path : String) : searchedPath (.text path) = .ok path := by
  rw [searchedPath]
  by_cases isEmpty : path = ""
  · subst isEmpty
    rfl
  · rw [if_pos (by simpa [Value.isGiven] using isEmpty)]

theorem satisfiedBy_regex {source : String} {pattern : Pattern}
    (compiles : Pattern.compile source = .ok pattern) :
    satisfiedBy ⟨none, none, some source, none⟩ fact.trigger =
      .ok (pattern.search fact.path).isSome := by
  change regexAccepts source (.text fact.path) = _
  rw [regexAccepts, compiles, searchedPath_text]
  rfl

theorem satisfiedBy_contains (needle : String) :
    satisfiedBy ⟨none, none, none, some needle⟩ fact.trigger =
      .ok (occursIn needle.toList fact.path.toList) := by
  change holdsText needle (.text fact.path) = _
  rw [holdsText]
  by_cases isEmpty : fact.path = ""
  · rw [isEmpty, if_neg (by decide), Except.ok.injEq, Bool.eq_iff_iff, occursIn_iff,
      String.isEmpty_iff]
    simp
  · rw [if_pos (by simpa [Value.isGiven] using isEmpty)]

end PathRules

namespace PageViewStep

/-- The rules of a goal that has one of the filters of the step only, for each filter that is given. -/
def rules (step : PageViewStep) : List PathRules :=
  (step.exactPath.map fun path => ⟨some path, none, none, none⟩).toList
    ++ (step.pattern.map fun pattern => ⟨none, some pattern, none, none⟩).toList
    ++ (step.regex.map fun regex => ⟨none, none, some regex, none⟩).toList
    ++ (step.contains.map fun needle => ⟨none, none, none, some needle⟩).toList

/-- The page view satisfies the rule of a goal for every filter of the step. -/
def IsMetBy (step : PageViewStep) (fact : PageViewFact) : Prop :=
  ∀ rules ∈ step.rules, rules.satisfiedBy fact.trigger = .ok true

def withoutContains (step : PageViewStep) : PageViewStep := { step with contains := none }

/-- The page view satisfies the rule of a goal for every filter but the one for a text in the path,
and the database finds that text. -/
structure Selects (step : PageViewStep) (fact : PageViewFact) : Prop where
  meetsOthers : step.withoutContains.IsMetBy fact
  finds : ∀ needle, step.contains = some needle → Like.Finds needle.toList fact.path.toList

def hasLongFilter (step : PageViewStep) : Bool :=
  step.contains.any fun needle => Like.isTooLong (Like.containing needle)

def findsText (step : PageViewStep) (fact : PageViewFact) : Bool :=
  step.contains.all fun needle => likeMatches (Like.containing needle) fact.path.toList

variable {step : PageViewStep}

theorem isMetBy_iff (step : PageViewStep) (fact : PageViewFact) :
    step.IsMetBy fact ↔ step.withoutContains.IsMetBy fact ∧
      ∀ needle, step.contains = some needle → occursIn needle.toList fact.path.toList = true := by
  have rules_eq : step.rules = step.withoutContains.rules ++
      (step.contains.map fun needle => ⟨none, none, none, some needle⟩).toList := by
    simp [rules, withoutContains, exactPath]
  rw [IsMetBy, IsMetBy, rules_eq]
  simp only [List.forall_mem_append]
  cases step.contains with
  | none => simp
  | some needle => simp [PathRules.satisfiedBy_contains]

theorem findsText_iff (step : PageViewStep) (fact : PageViewFact) :
    step.findsText fact = true ↔
      ∀ needle, step.contains = some needle → Like.Finds needle.toList fact.path.toList := by
  simp [findsText, Option.all_eq_true, likeMatches_containing_iff]

theorem withoutContains_isMetBy_iff {regex : Option Pattern} (compiles : step.compiled = .ok regex)
    (fact : PageViewFact) :
    step.withoutContains.IsMetBy fact ↔
      (admitsText step.exactPath (some fact.path) && fact.isAcceptedBy step.pattern regex) = true := by
  have exact_iff : (∀ rules ∈ (step.exactPath.map fun path : String =>
      (⟨some path, none, none, none⟩ : PathRules)).toList,
        rules.satisfiedBy fact.trigger = .ok true) ↔
          admitsText step.exactPath (some fact.path) = true := by
    cases step.exactPath with
    | none => simp [admitsText]
    | some path => simp [admitsText_iff, PathRules.satisfiedBy_exact]
  have pattern_iff : (∀ rules ∈ (step.pattern.map fun pattern : String =>
      (⟨none, some pattern, none, none⟩ : PathRules)).toList,
        rules.satisfiedBy fact.trigger = .ok true) ↔
          step.pattern.all (fun pattern => globMatches pattern (some fact.path)) = true := by
    cases step.pattern with
    | none => simp
    | some pattern => simp [PathRules.satisfiedBy_pattern]
  have regex_iff : (∀ rules ∈ (step.regex.map fun regex : String =>
      (⟨none, none, some regex, none⟩ : PathRules)).toList,
        rules.satisfiedBy fact.trigger = .ok true) ↔
          regex.all (fun pattern => (pattern.search fact.path).isSome) = true := by
    rw [compiled] at compiles
    cases given : step.regex with
    | none =>
        rw [given] at compiles
        obtain rfl := Except.ok.inj compiles
        simp
    | some source =>
        rw [given] at compiles
        cases read : Pattern.compile source with
        | error fault =>
            simp only [read] at compiles
            contradiction
        | ok pattern =>
            simp only [read] at compiles
            obtain rfl := Except.ok.inj compiles
            simp [PathRules.satisfiedBy_regex fact read]
  have rules_eq : step.withoutContains.rules =
      (step.exactPath.map fun path => ⟨some path, none, none, none⟩).toList
        ++ (step.pattern.map fun pattern => ⟨none, some pattern, none, none⟩).toList
        ++ (step.regex.map fun regex => ⟨none, none, some regex, none⟩).toList := by
    simp [rules, withoutContains, exactPath]
  rw [IsMetBy, rules_eq]
  simp only [List.forall_mem_append, exact_iff, pattern_iff, regex_iff,
    PageViewFact.isAcceptedBy, Bool.and_eq_true, and_assoc]

theorem selects_iff {regex : Option Pattern} (compiles : step.compiled = .ok regex)
    (fact : PageViewFact) :
    step.Selects fact ↔ admitsText step.exactPath (some fact.path) = true ∧
      step.findsText fact = true ∧ fact.isAcceptedBy step.pattern regex = true := by
  have others_iff := withoutContains_isMetBy_iff compiles fact
  rw [Bool.and_eq_true] at others_iff
  rw [findsText_iff]
  constructor
  · rintro ⟨meetsOthers, finds⟩
    obtain ⟨isExact, isAccepted⟩ := others_iff.mp meetsOthers
    exact ⟨isExact, finds, isAccepted⟩
  · rintro ⟨isExact, finds, isAccepted⟩
    exact ⟨others_iff.mpr ⟨isExact, isAccepted⟩, finds⟩

theorem isMetBy_iff_occurs {needle : String} (isNeedle : step.contains = some needle)
    (fact : PageViewFact) :
    step.IsMetBy fact ↔ step.withoutContains.IsMetBy fact ∧
      occursIn needle.toList fact.path.toList = true := by
  rw [isMetBy_iff]
  simp only [isNeedle, Option.some.injEq, forall_eq']

theorem IsMetBy.selects {needle : String} (isNeedle : step.contains = some needle)
    (needleAsIs : Like.ReadsAsIs needle.toList) {fact : PageViewFact}
    (pathAsIs : Like.ReadsAsIs fact.path.toList) (isMet : step.IsMetBy fact) :
    step.Selects fact := by
  obtain ⟨meetsOthers, occurs⟩ := (isMetBy_iff_occurs isNeedle fact).mp isMet
  refine ⟨meetsOthers, fun other isOther => ?_⟩
  obtain rfl := Option.some.inj (isNeedle.symm.trans isOther)
  exact Like.finds_of_occursIn needleAsIs pathAsIs occurs

end PageViewStep

namespace Database

variable (database : Database) {scope : Scope} {step : PageViewStep} {regex : Option Pattern}

def testedPageViews (scope : Scope) (step : PageViewStep) (range : DateRange) : List PageViewFact :=
  database.pageViews.filter fun fact =>
    fact.isVisible scope range && fact.visitorId.isSome
      && admitsText step.exactPath (some fact.path)

theorem mem_testedPageViews {range : DateRange} (fact : PageViewFact) :
    fact ∈ database.testedPageViews scope step range ↔ fact ∈ database.pageViews ∧
      scope.sees fact.siteId fact.tenantId = true ∧ range.selects fact.createdAt = true ∧
        fact.visitorId.isSome = true ∧ admitsText step.exactPath (some fact.path) = true := by
  simp only [testedPageViews, List.mem_filter, PageViewFact.isVisible, Bool.and_eq_true, and_assoc]

theorem selectedPageViews_of_fits (fits : scope.FitsWord) (step : PageViewStep)
    (range : DateRange) :
    database.selectedPageViews scope step range =
      if step.hasLongFilter && !(database.testedPageViews scope step range).isEmpty then
        .error .notBindable
      else .ok ((database.testedPageViews scope step range).filter step.findsText) := by
  rw [selectedPageViews, Scope.check_of_fits fits]
  unfold PageViewStep.hasLongFilter PageViewStep.findsText
  cases step.contains with
  | none => simp [testedPageViews, bind, Except.bind, pure, Except.pure]
  | some needle => simp [testedPageViews, bind, Except.bind, pure, Except.pure]

theorem result_pageViewVisitors (compiles : step.compiled = .ok regex) (range : DateRange) :
    (database.pageViewVisitors scope step range).result =
      (database.selectedPageViews scope step range).map fun selected =>
        sortedTexts ((selected.filter (·.isAcceptedBy step.pattern regex)).filterMap
          (·.visitorId)) := by
  rw [pageViewVisitors]
  split
  · rename_i noPatterns
    simp only [Bool.and_eq_true, Option.isNone_iff_eq_none] at noPatterns
    obtain ⟨noPattern, noRegex⟩ := noPatterns
    have noCompiled : regex = none := by
      rw [PageViewStep.compiled, noRegex] at compiles
      exact (Except.ok.inj compiles).symm
    have acceptsAll : ∀ facts : List PageViewFact,
        facts.filter (·.isAcceptedBy step.pattern regex) = facts := by
      intro facts
      simp [noPattern, noCompiled, PageViewFact.isAcceptedBy]
    simp only [acceptsAll]
    cases database.selectedPageViews scope step range <;> rfl
  · rw [testedPageViewVisitors, compiles]
    cases database.selectedPageViews scope step range <;> rfl

def pageViewTally (scope : Scope) (step : PageViewStep) (regex : Option Pattern) :
    Tally PageViewFact where
  rows := database.pageViews
  visitorId := PageViewFact.visitorId
  createdAt := PageViewFact.createdAt
  verdict fact :=
    if scope.sees fact.siteId fact.tenantId && admitsText step.exactPath (some fact.path) then
      if step.hasLongFilter then .error .notBindable
      else .ok (step.findsText fact && fact.isAcceptedBy step.pattern regex)
    else .ok false

theorem pageViewTally_determines_iff (scope : Scope) (step : PageViewStep) (regex : Option Pattern)
    (fact : PageViewFact) :
    (∃ counts, (database.pageViewTally scope step regex).verdict fact = .ok counts) ↔
      (scope.sees fact.siteId fact.tenantId = true →
        admitsText step.exactPath (some fact.path) = true → step.hasLongFilter = false) := by
  simp only [pageViewTally, ← and_imp, ← Bool.and_eq_true]
  split
  · rename_i isTested
    rw [isTested]
    cases step.hasLongFilter <;> simp
  · rename_i isUntested
    exact iff_of_true ⟨false, rfl⟩ fun isTested => absurd isTested isUntested

theorem pageViewTally_counts_iff (scope : Scope) (step : PageViewStep) (regex : Option Pattern)
    (fact : PageViewFact) :
    (database.pageViewTally scope step regex).verdict fact = .ok true ↔
      (scope.sees fact.siteId fact.tenantId = true ∧
        admitsText step.exactPath (some fact.path) = true) ∧ step.hasLongFilter = false ∧
        step.findsText fact = true ∧ fact.isAcceptedBy step.pattern regex = true := by
  simp only [pageViewTally, ← Bool.and_eq_true]
  split
  · rename_i isTested
    rw [isTested]
    cases step.hasLongFilter <;> simp
  · rename_i isUntested
    simp [isUntested]

theorem result_distinctVisitors_of_compiled (fits : scope.FitsWord)
    (compiles : step.compiled = .ok regex) (range : DateRange) :
    (database.distinctVisitors scope (.pageView step) range).result =
      if step.hasLongFilter && !(database.testedPageViews scope step range).isEmpty then
        .error .notBindable
      else .ok (sortedTexts ((((database.testedPageViews scope step range).filter
        step.findsText).filter (·.isAcceptedBy step.pattern regex)).filterMap (·.visitorId))) := by
  rw [distinctVisitors, database.result_pageViewVisitors compiles,
    database.selectedPageViews_of_fits fits]
  split <;> rfl

theorem result_pageViews_of_not_fits (tooLarge : ¬scope.FitsWord)
    (compiles : step.compiled = .ok regex) (range : DateRange) :
    (database.distinctVisitors scope (.pageView step) range).result = .error .beyondColumn := by
  rw [distinctVisitors, database.result_pageViewVisitors compiles, selectedPageViews,
    Scope.check_of_not_fits tooLarge]
  rfl

theorem pageViewTally_isAnsweredBy (fits : scope.FitsWord) (compiles : step.compiled = .ok regex)
    (range : DateRange) :
    (database.pageViewTally scope step regex).IsAnsweredBy range
      (database.distinctVisitors scope (.pageView step) range) := by
  -- A filter that is too long does no harm as long as there is no page view to test it on.
  have isRefused_iff : (step.hasLongFilter &&
      !(database.testedPageViews scope step range).isEmpty) = true ↔
        step.hasLongFilter = true ∧ ∃ fact, fact ∈ database.testedPageViews scope step range := by
    rw [Bool.and_eq_true, Bool.not_eq_true', List.isEmpty_eq_false_iff_exists_mem]
  constructor
  · have answered_iff : (∃ visitors,
        (database.distinctVisitors scope (.pageView step) range).result = .ok visitors) ↔
          ∀ fact ∈ database.testedPageViews scope step range, step.hasLongFilter = false := by
      rw [database.result_distinctVisitors_of_compiled fits compiles]
      split
      · rename_i isRefused
        obtain ⟨isLong, fact, isTested⟩ := isRefused_iff.mp isRefused
        refine iff_of_false (by simp) fun areShort => ?_
        rw [areShort fact isTested] at isLong
        contradiction
      · rename_i notRefused
        refine iff_of_true ⟨_, rfl⟩ fun fact isTested => ?_
        by_contra isLong
        exact notRefused (isRefused_iff.mpr ⟨by simpa using isLong, fact, isTested⟩)
    rw [answered_iff]
    constructor
    · intro areShort fact isPageView isKnown inRange
      refine (database.pageViewTally_determines_iff scope step regex fact).mpr
        fun isSeen isExact => areShort fact ?_
      exact (database.mem_testedPageViews fact).mpr ⟨isPageView, isSeen, inRange, isKnown, isExact⟩
    · intro determined fact isTested
      obtain ⟨isPageView, isSeen, inRange, isKnown, isExact⟩ :=
        (database.mem_testedPageViews fact).mp isTested
      exact (database.pageViewTally_determines_iff scope step regex fact).mp
        (determined fact isPageView isKnown inRange) isSeen isExact
  · intro visitors answered
    rw [database.result_distinctVisitors_of_compiled fits compiles] at answered
    split at answered
    · contradiction
    · rename_i notRefused
      obtain rfl := Except.ok.inj answered
      refine Tally.lists_sortedTexts fun fact isKnown => ?_
      rw [List.mem_filter, List.mem_filter, mem_testedPageViews, pageViewTally_counts_iff]
      constructor
      · rintro ⟨⟨⟨isPageView, isSeen, inRange, _, isExact⟩, found⟩, accepted⟩
        have isTested := (database.mem_testedPageViews fact).mpr
          ⟨isPageView, isSeen, inRange, isKnown, isExact⟩
        have isShort : step.hasLongFilter = false := by
          by_contra isLong
          exact notRefused (isRefused_iff.mpr ⟨by simpa using isLong, fact, isTested⟩)
        exact ⟨isPageView, inRange, ⟨isSeen, isExact⟩, isShort, found, accepted⟩
      · rintro ⟨isPageView, inRange, ⟨isSeen, isExact⟩, _, found, accepted⟩
        exact ⟨⟨⟨isPageView, isSeen, inRange, isKnown, isExact⟩, found⟩, accepted⟩

def pricingViews : Database where
  goals := []
  conversions := []
  events := []
  pageViews := [⟨1, none, none, some "visitor", "/pricing", .given (.startOfDay signupDay)⟩]

end Database

end ConversionTracking
