import ConversionTracking.Funnel.Visitors
import ConversionTracking.Proofs.Calendar.StoredMoments
import ConversionTracking.Proofs.Store.Database
import ConversionTracking.Proofs.Store.Scope
import ConversionTracking.Proofs.Value.Entries

/-!
The visitors of a funnel step are those of the rows that count. A tally puts one question to every
row of a table; a query answers it when it lists the visitors of the rows that count, each of them
once, and fails exactly when there is a row of which it cannot be told. An event counts for a step
when it satisfies the conditions of a goal with the criteria of the step.
-/

namespace ConversionTracking

theorem nodup_eraseDups (texts : List String) : texts.eraseDups.Nodup := by
  -- What is left after the first text is filtered, so that the induction is on the length.
  match texts with
  | [] => simp
  | first :: rest =>
      rw [List.eraseDups_cons, List.nodup_cons]
      constructor
      · simp
      · exact nodup_eraseDups (rest.filter fun text => !text == first)
termination_by texts.length
decreasing_by
  have shorter := List.length_filter_le (fun text => !text == first) rest
  simp only [List.length_cons]
  omega

theorem nodup_sortedTexts (texts : List String) : (sortedTexts texts).Nodup := nodup_eraseDups _

@[simp] theorem mem_sortedTexts {texts : List String} {text : String} :
    text ∈ sortedTexts texts ↔ text ∈ texts := by
  rw [sortedTexts, List.mem_eraseDups, List.mem_mergeSort]

theorem admitsText_iff (expected actual : Option String) :
    admitsText expected actual = true ↔ ∀ text, expected = some text → actual = some text := by
  cases expected with
  | none => simp [admitsText]
  | some text =>
      simp only [admitsText, Option.isNone_some, Bool.false_or, beq_iff_eq, Option.some.injEq,
        forall_eq']
      exact eq_comm

section

variable {Row : Type} (test : Row → Outcome Bool)

theorem exists_filterFacts_iff (facts : List Row) :
    (∃ kept, (filterFacts test facts).result = .ok kept) ↔
      ∀ fact ∈ facts, ∃ passes, (test fact).result = .ok passes := by
  induction facts with
  | nil => simp [filterFacts]
  | cons fact rest ih =>
      simp only [filterFacts, Outcome.bind_eq_ok_iff, Outcome.result_pure, List.forall_mem_cons,
        ← ih]
      constructor
      · rintro ⟨_, passes, tested, others, kept, _⟩
        exact ⟨⟨passes, tested⟩, others, kept⟩
      · rintro ⟨⟨passes, tested⟩, others, kept⟩
        exact ⟨_, passes, tested, others, kept, rfl⟩

theorem mem_of_filterFacts {facts kept : List Row}
    (filtered : (filterFacts test facts).result = .ok kept) (fact : Row) :
    fact ∈ kept ↔ fact ∈ facts ∧ (test fact).result = .ok true := by
  induction facts generalizing kept with
  | nil =>
      simp only [filterFacts, Outcome.result_pure, Except.ok.injEq] at filtered
      simp [← filtered]
  | cons first rest ih =>
      simp only [filterFacts, Outcome.bind_eq_ok_iff, Outcome.result_pure, Except.ok.injEq]
        at filtered
      obtain ⟨passes, tested, others, filteredRest, rfl⟩ := filtered
      have others_iff := ih filteredRest
      cases passes with
      | true =>
          simp only [if_true, List.mem_cons, others_iff]
          constructor
          · rintro (rfl | later)
            · exact ⟨Or.inl rfl, tested⟩
            · exact ⟨Or.inr later.1, later.2⟩
          · rintro ⟨rfl | later, passed⟩
            · exact Or.inl rfl
            · exact Or.inr ⟨later, passed⟩
      | false =>
          simp only [Bool.false_eq_true, if_false, others_iff, List.mem_cons]
          constructor
          · exact fun later => ⟨Or.inr later.1, later.2⟩
          · rintro ⟨rfl | later, passed⟩
            · simp [tested] at passed
            · exact ⟨later, passed⟩

end

/-- A question put to the rows of a table: whose row it is, when it was recorded and whether it
counts. -/
structure Tally (Row : Type) where
  rows : List Row
  visitorId : Row → Option String
  createdAt : Row → StoredMoment
  verdict : Row → Except Fault Bool

namespace Tally

variable {Row : Type} (tally : Tally Row) (range : DateRange)

def Determined : Prop :=
  ∀ row ∈ tally.rows, (tally.visitorId row).isSome = true →
    range.selects (tally.createdAt row) = true → ∃ counts, tally.verdict row = .ok counts

def CountsFor (visitor : String) : Prop :=
  ∃ row ∈ tally.rows, tally.visitorId row = some visitor ∧
    range.selects (tally.createdAt row) = true ∧ tally.verdict row = .ok true

structure Lists (visitors : List String) : Prop where
  distinct : visitors.Nodup
  mem_iff : ∀ visitor, visitor ∈ visitors ↔ tally.CountsFor range visitor

structure IsAnsweredBy (outcome : Outcome (List String)) : Prop where
  determined_iff : (∃ visitors, outcome.result = .ok visitors) ↔ tally.Determined range
  lists : ∀ visitors, outcome.result = .ok visitors → tally.Lists range visitors

variable {tally range}

theorem lists_sortedTexts {kept : List Row}
    (mem_iff : ∀ row, (tally.visitorId row).isSome = true →
      (row ∈ kept ↔ row ∈ tally.rows ∧ range.selects (tally.createdAt row) = true ∧
        tally.verdict row = .ok true)) :
    tally.Lists range (sortedTexts (kept.filterMap tally.visitorId)) := by
  refine ⟨nodup_sortedTexts _, fun visitor => ?_⟩
  rw [mem_sortedTexts, List.mem_filterMap]
  constructor
  · rintro ⟨row, isKept, isVisitor⟩
    obtain ⟨isRow, inRange, counts⟩ := (mem_iff row (by simp [isVisitor])).mp isKept
    exact ⟨row, isRow, isVisitor, inRange, counts⟩
  · rintro ⟨row, isRow, isVisitor, inRange, counts⟩
    exact ⟨row, (mem_iff row (by simp [isVisitor])).mpr ⟨isRow, inRange, counts⟩, isVisitor⟩

theorem IsAnsweredBy.exists_visitors {outcome : Outcome (List String)}
    (answered : tally.IsAnsweredBy range outcome) (determined : tally.Determined range) :
    ∃ visitors, outcome.result = .ok visitors ∧ tally.Lists range visitors := by
  obtain ⟨visitors, result⟩ := answered.determined_iff.mpr determined
  exact ⟨visitors, result, answered.lists visitors result⟩

end Tally

/-- A row with this site, this tenant and this moment lies in the scope and in the range, and was not
stamped by the database at the start of the range. -/
structure Scope.Covers (scope : Scope) (range : DateRange) (siteId : Option Int)
    (tenantId : Option String) (moment : StoredMoment) : Prop where
  site : ∀ site, scope.siteId = some site → siteId = some site ∨ siteId = none
  tenant : ∀ tenant, scope.tenantId = some tenant → tenantId = some tenant ∨ tenantId = none
  notBefore : range.start.clockMicros ≤ moment.clockMicros
  notAfter : moment.clockMicros ≤ range.finish.clockMicros
  noStamp : moment.isStampOf range.start = false

theorem Scope.covers_iff {scope : Scope} {range : DateRange} {siteId : Option Int}
    {tenantId : Option String} {moment : StoredMoment} :
    scope.Covers range siteId tenantId moment ↔
      scope.sees siteId tenantId = true ∧ range.selects moment = true := by
  rw [sees, DateRange.selects_iff, Bool.and_eq_true, admits_iff, admits_iff]
  constructor
  · rintro ⟨site, tenant, notBefore, notAfter, noStamp⟩
    exact ⟨⟨site, tenant⟩, notBefore, notAfter, noStamp⟩
  · rintro ⟨⟨site, tenant⟩, notBefore, notAfter, noStamp⟩
    exact ⟨site, tenant, notBefore, notAfter, noStamp⟩

def EventStep.conditions (step : EventStep) : EventConditions where
  name := step.matchName
  category := step.category
  minValue := none
  properties := step.properties

namespace EventFact

def trigger (fact : EventFact) : Trigger :=
  .event {
    name := .text fact.name
    category := (fact.category.map Value.text).getD .null
    properties := fact.properties
    value := .null
    sessionId := .null
    visitorId := (fact.visitorId.map Value.text).getD .null
    path := .null
    id := .int fact.id }

def IsWithin (fact : EventFact) (scope : Scope) (range : DateRange) : Prop :=
  scope.Covers range fact.siteId fact.tenantId fact.createdAt

end EventFact

theorem EventConditions.fieldIs_text {trigger : Trigger} {field : TriggerField}
    {actual : Option String}
    (isField : trigger.field? field = some ((actual.map Value.text).getD .null))
    (expected : Option String) :
    fieldIs trigger field expected = .ok (admitsText expected actual) := by
  cases expected with
  | none => rfl
  | some text =>
      have required : trigger.require field = .ok ((actual.map Value.text).getD .null) := by
        rw [Trigger.require, isField]
      have same : isText ((actual.map Value.text).getD .null) (some text) =
          admitsText (some text) actual := by
        rw [Bool.eq_iff_iff, isText, Value.equals_text_iff, admitsText_iff]
        cases actual <;> simp
      rw [fieldIs, required, ← same]
      rfl

theorem EventStep.result_satisfiedBy (step : EventStep) (fact : EventFact) :
    (step.conditions.satisfiedBy fact.trigger).result =
      if fact.isNamedBy step then
        (propertiesMeet (givenProperties fact.properties) step.properties).result
      else .ok false := by
  have named : EventConditions.fieldIs fact.trigger .name step.conditions.name =
      .ok (admitsText step.matchName (some fact.name)) := EventConditions.fieldIs_text rfl _
  have categorized : EventConditions.fieldIs fact.trigger .category step.conditions.category =
      .ok (admitsText step.category fact.category) := EventConditions.fieldIs_text rfl _
  rw [EventConditions.satisfiedBy, named, categorized, EventFact.isNamedBy]
  cases admitsText step.matchName (some fact.name) with
  | false => rfl
  | true =>
      cases admitsText step.category fact.category with
      | false => rfl
      | true => rfl

def EventStep.test (step : EventStep) (fact : EventFact) : Outcome Bool :=
  propertiesMeet (givenProperties fact.properties) step.properties

namespace Database

variable (database : Database) {scope : Scope}

def eventTally (scope : Scope) (step : EventStep) : Tally EventFact where
  rows := database.events
  visitorId := EventFact.visitorId
  createdAt := EventFact.createdAt
  verdict fact :=
    if scope.sees fact.siteId fact.tenantId then (step.conditions.satisfiedBy fact.trigger).result
    else .ok false

theorem selectedEvents_of_fits (fits : scope.FitsWord) (step : EventStep) (range : DateRange) :
    database.selectedEvents scope step range =
      .ok (database.events.filter fun fact =>
        fact.isVisible scope range && fact.visitorId.isSome && fact.isNamedBy step) := by
  rw [selectedEvents, Scope.check_of_fits fits]
  rfl

theorem result_distinctVisitors_of_not_fits (tooLarge : ¬scope.FitsWord) (step : EventStep)
    (range : DateRange) :
    (database.distinctVisitors scope (.event step) range).result = .error .beyondColumn := by
  have refused : database.selectedEvents scope step range = .error .beyondColumn := by
    rw [selectedEvents, Scope.check_of_not_fits tooLarge]
    rfl
  rw [distinctVisitors, eventVisitors]
  split
  · rw [selectedEventVisitors, Outcome.result_bind, Outcome.result_ofExcept, refused]
  · rw [testedEventVisitors, Outcome.result_bind, Outcome.result_ofExcept, refused]

theorem selectedEventVisitors_eq_tested (scope : Scope) {step : EventStep}
    (noProperties : step.properties = []) (range : DateRange) :
    database.selectedEventVisitors scope step range =
      database.testedEventVisitors scope step range := by
  have keepsAll : ∀ facts : List EventFact,
      filterFacts (fun fact => propertiesMeet (givenProperties fact.properties) []) facts =
        pure facts := by
    intro facts
    induction facts with
    | nil => rfl
    | cons fact rest ih =>
        rw [filterFacts, ih]
        rfl
  rw [selectedEventVisitors, testedEventVisitors, noProperties]
  cases database.selectedEvents scope step range with
  | error fault => rfl
  | ok facts =>
      change _ = (filterFacts _ facts >>= _ : Outcome (List String))
      rw [keepsAll]
      rfl

theorem eventVisitors_eq_tested (scope : Scope) (step : EventStep) (range : DateRange) :
    database.eventVisitors scope step range = database.testedEventVisitors scope step range := by
  rw [eventVisitors]
  split
  · rename_i noProperties
    exact database.selectedEventVisitors_eq_tested scope (List.isEmpty_iff.mp noProperties) range
  · rfl

def namedEvents (scope : Scope) (step : EventStep) (range : DateRange) : List EventFact :=
  database.events.filter fun fact =>
    fact.isVisible scope range && fact.visitorId.isSome && fact.isNamedBy step

theorem mem_namedEvents {step : EventStep} {range : DateRange} (fact : EventFact) :
    fact ∈ database.namedEvents scope step range ↔ fact ∈ database.events ∧
      scope.sees fact.siteId fact.tenantId = true ∧ range.selects fact.createdAt = true ∧
        fact.visitorId.isSome = true ∧ fact.isNamedBy step = true := by
  simp only [namedEvents, List.mem_filter, EventFact.isVisible, Bool.and_eq_true, and_assoc]

theorem distinctVisitors_event_eq_ok_iff (fits : scope.FitsWord) (step : EventStep)
    (range : DateRange) (visitors : List String) :
    (database.distinctVisitors scope (.event step) range).result = .ok visitors ↔
      ∃ kept, (filterFacts step.test (database.namedEvents scope step range)).result = .ok kept ∧
        sortedTexts (kept.filterMap (·.visitorId)) = visitors := by
  rw [distinctVisitors, eventVisitors_eq_tested, testedEventVisitors,
    selectedEvents_of_fits database fits]
  simp only [Outcome.bind_eq_ok_iff, Outcome.result_ofExcept, Except.ok.injEq, exists_eq_left',
    Outcome.result_pure]
  rfl

theorem eventTally_verdict_of_seen {step : EventStep} {fact : EventFact}
    (isSeen : scope.sees fact.siteId fact.tenantId = true) :
    (database.eventTally scope step).verdict fact =
      (step.conditions.satisfiedBy fact.trigger).result := if_pos isSeen

theorem eventTally_determines_iff (scope : Scope) (step : EventStep) (fact : EventFact) :
    (∃ counts, (database.eventTally scope step).verdict fact = .ok counts) ↔
      (scope.sees fact.siteId fact.tenantId = true → fact.isNamedBy step = true →
        ∃ passes, (step.test fact).result = .ok passes) := by
  by_cases isSeen : scope.sees fact.siteId fact.tenantId = true
  · rw [eventTally_verdict_of_seen database isSeen, EventStep.result_satisfiedBy]
    by_cases isNamed : fact.isNamedBy step = true
    · simp only [isSeen, isNamed, if_true, true_implies]
      rfl
    · simp [isNamed]
  · simp [eventTally, isSeen]

theorem eventTally_counts_iff (scope : Scope) (step : EventStep) (fact : EventFact) :
    (database.eventTally scope step).verdict fact = .ok true ↔
      scope.sees fact.siteId fact.tenantId = true ∧ fact.isNamedBy step = true ∧
        (step.test fact).result = .ok true := by
  by_cases isSeen : scope.sees fact.siteId fact.tenantId = true
  · rw [eventTally_verdict_of_seen database isSeen, EventStep.result_satisfiedBy]
    by_cases isNamed : fact.isNamedBy step = true
    · simp only [isSeen, isNamed, if_true, true_and]
      rfl
    · simp [isNamed]
  · simp [eventTally, isSeen]

theorem eventTally_isAnsweredBy (fits : scope.FitsWord) (step : EventStep) (range : DateRange) :
    (database.eventTally scope step).IsAnsweredBy range
      (database.distinctVisitors scope (.event step) range) := by
  constructor
  · have exists_iff : (∃ visitors,
        (database.distinctVisitors scope (.event step) range).result = .ok visitors) ↔
          ∃ kept, (filterFacts step.test (database.namedEvents scope step range)).result =
            .ok kept := by
      simp only [database.distinctVisitors_event_eq_ok_iff fits]
      exact ⟨fun ⟨_, kept, filtered, _⟩ => ⟨kept, filtered⟩,
        fun ⟨kept, filtered⟩ => ⟨_, kept, filtered, rfl⟩⟩
    rw [exists_iff, exists_filterFacts_iff]
    constructor
    · intro tested fact isEvent isKnown inRange
      refine (database.eventTally_determines_iff scope step fact).mpr fun isSeen isNamed => ?_
      exact tested fact ((database.mem_namedEvents fact).mpr
        ⟨isEvent, isSeen, inRange, isKnown, isNamed⟩)
    · intro determined fact isTested
      obtain ⟨isEvent, isSeen, inRange, isKnown, isNamed⟩ :=
        (database.mem_namedEvents fact).mp isTested
      exact (database.eventTally_determines_iff scope step fact).mp
        (determined fact isEvent isKnown inRange) isSeen isNamed
  · intro visitors result
    obtain ⟨kept, filtered, rfl⟩ :=
      (database.distinctVisitors_event_eq_ok_iff fits step range visitors).mp result
    refine Tally.lists_sortedTexts fun fact isKnown => ?_
    rw [mem_of_filterFacts step.test filtered, mem_namedEvents, eventTally_counts_iff]
    constructor
    · rintro ⟨⟨isEvent, isSeen, inRange, _, isNamed⟩, passes⟩
      exact ⟨isEvent, inRange, isSeen, isNamed, passes⟩
    · rintro ⟨isEvent, inRange, isSeen, isNamed, passes⟩
      exact ⟨⟨isEvent, isSeen, inRange, isKnown, isNamed⟩, passes⟩

/-- The visitors of an event step are those with an event in the scope and in the range that satisfies
the conditions of a goal with the criteria of the step, unless the scope is of a site that is no
number of 64 bits. Without conditions on the properties the database alone selects the same visitors
as a test of one event after another. -/
theorem eventVisitors_satisfy (scope : Scope) (step : EventStep) (range : DateRange)
    (determined : ∀ fact ∈ database.events, fact.visitorId.isSome = true →
      fact.IsWithin scope range →
        ∃ satisfied, (step.conditions.satisfiedBy fact.trigger).result = .ok satisfied) :
    (scope.FitsWord →
      ∃ visitors, (database.distinctVisitors scope (.event step) range).result = .ok visitors ∧
        visitors.Nodup ∧ ∀ visitor, visitor ∈ visitors ↔
          ∃ fact ∈ database.events, fact.visitorId = some visitor ∧ fact.IsWithin scope range ∧
            (step.conditions.satisfiedBy fact.trigger).result = .ok true) ∧
      (¬scope.FitsWord →
        (database.distinctVisitors scope (.event step) range).result = .error .beyondColumn) ∧
      (step.properties = [] → database.selectedEventVisitors scope step range =
        database.testedEventVisitors scope step range) := by
  refine ⟨fun fits => ?_, fun tooLarge =>
    database.result_distinctVisitors_of_not_fits tooLarge step range, fun noProperties =>
    database.selectedEventVisitors_eq_tested scope noProperties range⟩
  have areDetermined : (database.eventTally scope step).Determined range := by
    intro fact isEvent isKnown inRange
    by_cases isSeen : scope.sees fact.siteId fact.tenantId = true
    · rw [eventTally_verdict_of_seen database isSeen]
      exact determined fact isEvent isKnown (Scope.covers_iff.mpr ⟨isSeen, inRange⟩)
    · exact ⟨false, by simp [eventTally, isSeen]⟩
  obtain ⟨visitors, result, lists⟩ :=
    (database.eventTally_isAnsweredBy fits step range).exists_visitors areDetermined
  refine ⟨visitors, result, lists.distinct, fun visitor => ?_⟩
  rw [lists.mem_iff]
  constructor
  · rintro ⟨fact, isEvent, isVisitor, inRange, counts⟩
    have isSeen := ((database.eventTally_counts_iff scope step fact).mp counts).1
    rw [eventTally_verdict_of_seen database isSeen] at counts
    exact ⟨fact, isEvent, isVisitor, Scope.covers_iff.mpr ⟨isSeen, inRange⟩, counts⟩
  · rintro ⟨fact, isEvent, isVisitor, within, counts⟩
    obtain ⟨isSeen, inRange⟩ := Scope.covers_iff.mp within
    rw [← eventTally_verdict_of_seen database isSeen] at counts
    exact ⟨fact, isEvent, isVisitor, inRange, counts⟩

def signupDay : Date := ⟨738895, by decide, by decide⟩

def signupRange : DateRange := ⟨.startOfDay signupDay, .endOfDay signupDay, by decide⟩

def signupFor (plan visitor : String) (id : Int) : EventFact where
  id := id
  siteId := none
  tenantId := none
  visitorId := some visitor
  name := "signup"
  category := none
  properties := .map [(.text "plan", .text plan)]
  createdAt := .given (.startOfDay signupDay)

def plannedSignups : Database where
  goals := []
  conversions := []
  events := [signupFor "pro" "first" 1, signupFor "free" "second" 2]
  pageViews := []

def signupStep (properties : Fields) : EventStep where
  name := none
  eventName := some "signup"
  category := none
  properties := properties

theorem paid_signup_counted :
    ∃ visitors, (plannedSignups.distinctVisitors .everything
        (.event (signupStep [("plan", .text "pro")])) signupRange).result = .ok visitors ∧
      "first" ∈ visitors ∧ "second" ∉ visitors := by
  have satisfied_iff : ∀ fact ∈ plannedSignups.events,
      ((signupStep [("plan", .text "pro")]).conditions.satisfiedBy fact.trigger).result =
        .ok (fact.visitorId == some "first") := by
    intro fact isEvent
    obtain rfl | rfl := List.mem_pair.mp isEvent
    · decide +kernel
    · decide +kernel
  obtain ⟨lists, _⟩ := plannedSignups.eventVisitors_satisfy .everything
    (signupStep [("plan", .text "pro")]) signupRange
    fun fact isEvent _ _ => ⟨_, satisfied_iff fact isEvent⟩
  obtain ⟨visitors, result, _, mem_iff⟩ := lists Scope.fitsWord_everything
  have within : (signupFor "pro" "first" 1).IsWithin .everything signupRange :=
    Scope.covers_iff.mpr ⟨rfl, by decide +kernel⟩
  refine ⟨visitors, result, (mem_iff _).mpr ?_, fun counted => ?_⟩
  · exact ⟨_, List.mem_cons_self, rfl, within, satisfied_iff _ List.mem_cons_self⟩
  · obtain ⟨fact, isEvent, isSecond, _, satisfied⟩ := (mem_iff _).mp counted
    rw [satisfied_iff fact isEvent, isSecond] at satisfied
    exact absurd (Except.ok.inj satisfied) (by decide)

def stampedSignup : EventFact :=
  { signupFor "pro" "first" 1 with createdAt := .stamped ⟨signupDay, 0, by decide⟩ }

def stampedSignups : Database := { plannedSignups with events := [stampedSignup] }

/-- There are no events whose properties could be looked at, but the query fails for the least site
that is no number of 64 bits. A signup that the database stamped at the start of the range is not
counted. -/
theorem oversized_site_and_start_stamp_missed :
    let scope : Scope := ⟨some 0x8000000000000000, none⟩
    (Database.empty.events = [] ∧
      ¬∃ visitors, (Database.empty.distinctVisitors scope (.event (signupStep []))
        signupRange).result = .ok visitors) ∧
      stampedSignup.createdAt.clockMicros = signupRange.start.clockMicros ∧
      ((signupStep []).conditions.satisfiedBy stampedSignup.trigger).result = .ok true ∧
      (stampedSignups.distinctVisitors .everything (.event (signupStep [])) signupRange).result =
        .ok [] := by
  intro scope
  refine ⟨⟨rfl, ?_⟩, by decide, by decide +kernel, by decide +kernel⟩
  rintro ⟨visitors, result⟩
  have tooLarge : ¬scope.FitsWord := fun fits => by
    have below := fits 0x8000000000000000 rfl
    omega
  rw [Database.empty.result_distinctVisitors_of_not_fits tooLarge] at result
  contradiction

end Database

end ConversionTracking
