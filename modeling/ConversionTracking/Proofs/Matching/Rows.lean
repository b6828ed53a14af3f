import ConversionTracking.Matching.Evaluate
import ConversionTracking.Proofs.Store.Conversions

/-!
The rows of a trigger's conversions. For each goal a trigger makes at most one row, which depends on
the trigger, the scope and the goal alone, and the table takes it unless a conversion of the goal
has its key.
-/

namespace ConversionTracking

namespace Database

def accepted? (database : Database) (draft : Conversion) : Option Conversion :=
  if database.conversions.any draft.conflicts then none
  else some { draft with id := database.nextId (database.conversions.map (·.id)) }

theorem any_conflicts_iff (database : Database) (draft : Conversion) :
    database.conversions.any draft.conflicts = true ↔
      ∃ other ∈ database.conversions, draft.SharesKey other := by
  simp only [List.any_eq_true, Conversion.conflicts_iff]

theorem accepted?_eq_some_iff (database : Database) (draft row : Conversion) :
    database.accepted? draft = some row ↔
      (∀ other ∈ database.conversions, ¬draft.SharesKey other) ∧
        row = { draft with id := database.nextId (database.conversions.map (·.id)) } := by
  simp only [accepted?, any_conflicts_iff, Option.ite_none_left_eq_some, Option.some.injEq,
    not_exists, not_and, eq_comm (a := row)]

theorem accepted?_eq_none_iff (database : Database) (draft : Conversion) :
    database.accepted? draft = none ↔
      ∃ other ∈ database.conversions, draft.SharesKey other := by
  simp only [accepted?, any_conflicts_iff, ite_eq_left_iff, reduceCtorEq, imp_false,
    Classical.not_not]

theorem takes_iff_accepted {database : Database} {fields : ConversionFields} {draft : Conversion}
    (noId : fields.id = .null) (made : fields.Makes 0 draft) (row : Conversion) :
    database.Takes fields row ↔ database.accepted? draft = some row := by
  have madeNext := made.withId noId (database.nextId (database.conversions.map (·.id)))
  rw [accepted?_eq_some_iff]
  constructor
  · intro takes
    obtain rfl := takes.makes.unique madeNext
    exact ⟨takes.keyFree, rfl⟩
  · rintro ⟨keyFree, rfl⟩
    refine ⟨madeNext, ?_, keyFree⟩
    intro other member same
    have inUse := List.mem_map_of_mem (f := (·.id)) member
    simp only [same] at inUse
    exact database.nextId_notMem _ inUse

end Database

namespace Occurrence

/-- A trigger with whom it is said to belong to, when it is of a known kind and they can be read. -/
def of? (trigger : Trigger) (session visitor : Value) : Option Occurrence :=
  (read trigger session visitor).toOption.join

theorem read_occurrence (occurrence : Occurrence) :
    read occurrence.trigger occurrence.session occurrence.visitor = .ok (some occurrence) := by
  obtain ⟨trigger, kind, session, visitor, sessionId, visitorId, isKind, ofSession, ofVisitor⟩ :=
    occurrence
  unfold read
  split
  · rename_i unknown
    exact absurd (unknown.symm.trans isKind) (by simp)
  · rename_i other isOther
    obtain rfl := Option.some.inj (isOther.symm.trans isKind)
    split
    · rename_i failed
      exact absurd (failed.symm.trans ofSession) (by simp)
    · rename_i _ sameSession
      obtain rfl := Except.ok.inj (sameSession.symm.trans ofSession)
      split
      · rename_i failed
        exact absurd (failed.symm.trans ofVisitor) (by simp)
      · rename_i _ sameVisitor
        obtain rfl := Except.ok.inj (sameVisitor.symm.trans ofVisitor)
        rfl

theorem of?_eq_some_iff_read (trigger : Trigger) (session visitor : Value)
    (occurrence : Occurrence) :
    of? trigger session visitor = some occurrence ↔
      read trigger session visitor = .ok (some occurrence) := by
  unfold of?
  cases read trigger session visitor with
  | error fault => simp [Except.toOption]
  | ok occurrence? => simp [Except.toOption]

theorem of?_eq_some_iff (trigger : Trigger) (session visitor : Value) (occurrence : Occurrence) :
    of? trigger session visitor = some occurrence ↔
      occurrence.trigger = trigger ∧ occurrence.session = session ∧
        occurrence.visitor = visitor := by
  constructor
  · intro isRead
    unfold of? read at isRead
    split at isRead
    · cases isRead
    · split at isRead
      · cases isRead
      · split at isRead
        · cases isRead
        · cases isRead
          exact ⟨rfl, rfl, rfl⟩
  · rintro ⟨rfl, rfl, rfl⟩
    rw [of?, occurrence.read_occurrence]
    rfl

def draft? (occurrence : Occurrence) (scope : Scope) (goal : Goal) : Option Conversion :=
  match (goal.isSatisfiedBy occurrence.trigger).result, occurrence.conversionFields scope goal with
  | .ok true, .ok fields => (fields.toRow 0).toOption
  | _, _ => none

def newRow? (occurrence : Occurrence) (scope : Scope) (goal : Goal) (database : Database) :
    Option Conversion :=
  (occurrence.draft? scope goal).bind database.accepted?

def newRows (occurrence : Occurrence) (scope : Scope) :
    List Goal → Database → List (Goal × Conversion)
  | [], _ => []
  | goal :: rest, database =>
      match occurrence.newRow? scope goal database with
      | none => newRows occurrence scope rest database
      | some row => (goal, row) :: newRows occurrence scope rest (database.withConversions [row])

structure Fills (occurrence : Occurrence) (scope : Scope) (goal : Goal) (row : Conversion) :
    Prop where
  goalInWord : checkWord goal.id = .ok ()
  scopeReadable : scope.check = .ok ()
  goalId : row.goalId = goal.id
  dedupeKey : occurrence.key goal = .ok row.dedupeKey
  sessionId : Column.text occurrence.sessionId = .ok row.sessionId
  visitorId : Column.text occurrence.visitorId = .ok row.visitorId

theorem conversionFields_eq_ok_iff (occurrence : Occurrence) (scope : Scope) (goal : Goal)
    (fields : ConversionFields) :
    occurrence.conversionFields scope goal = .ok fields ↔
      ∃ key eventId pageViewId value metadata, occurrence.key goal = .ok key ∧
        occurrence.factId .event = .ok eventId ∧ occurrence.factId .pageView = .ok pageViewId ∧
        goal.worthRule.resolve occurrence.trigger = .ok value ∧
        occurrence.trigger.metadata = .ok metadata ∧
        fields = {
          goalId := .int goal.id
          siteId := ((scope.siteId <|> goal.siteId).map Value.int).getD .null
          tenantId := ((scope.tenantId <|> goal.tenantId).map Value.text).getD .null
          sessionId := occurrence.sessionId
          visitorId := occurrence.visitorId
          eventId := (eventId.map Value.text).getD .null
          pageViewId := (pageViewId.map Value.text).getD .null
          value := (value.map Value.float).getD .null
          metadata := .map metadata
          dedupeKey := (key.map Value.text).getD .null } := by
  simp only [conversionFields, Except.bind_eq_ok_iff, pure, Except.pure, Except.ok.injEq]
  constructor
  · rintro ⟨key, isKey, eventId, ofEvent, pageViewId, ofPageView, value, resolved, metadata,
      extracted, same⟩
    exact ⟨key, eventId, pageViewId, value, metadata, isKey, ofEvent, ofPageView, resolved,
      extracted, same.symm⟩
  · rintro ⟨key, eventId, pageViewId, value, metadata, isKey, ofEvent, ofPageView, resolved,
      extracted, same⟩
    exact ⟨key, isKey, eventId, ofEvent, pageViewId, ofPageView, value, resolved, metadata,
      extracted, same.symm⟩

theorem draft?_eq_some_iff (occurrence : Occurrence) (scope : Scope) (goal : Goal)
    (draft : Conversion) :
    occurrence.draft? scope goal = some draft ↔
      (goal.isSatisfiedBy occurrence.trigger).result = .ok true ∧
        ∃ fields, occurrence.conversionFields scope goal = .ok fields ∧ fields.Makes 0 draft := by
  unfold draft?
  split
  · rename_i fields satisfied made
    simp only [satisfied, made, true_and, Except.ok.injEq, exists_eq_left']
    rw [← ConversionFields.toRow_eq_ok_iff]
    cases fields.toRow 0 <;> simp [Except.toOption]
  · rename_i unmade
    constructor
    · simp
    · rintro ⟨satisfied, fields, made, _⟩
      exact (unmade fields satisfied made).elim

section

variable {occurrence : Occurrence} {scope : Scope} {goal : Goal} {draft : Conversion}

theorem fills_of_makes {fields : ConversionFields} {nextId : Int} {row : Conversion}
    (built : occurrence.conversionFields scope goal = .ok fields)
    (made : fields.Makes nextId row) : occurrence.Fills scope goal row := by
  obtain ⟨key, _, _, value, metadata, isKey, _, _, _, _, same⟩ :=
    (conversionFields_eq_ok_iff occurrence scope goal fields).mp built
  have goalColumn := made.goalId
  have siteColumn := made.siteId
  have keyColumn := made.dedupeKey
  have sessionColumn := made.sessionId
  have visitorColumn := made.visitorId
  subst same
  simp only [Column.whole, Except.bind_eq_ok_iff, pure, Except.pure, Except.ok.injEq,
    Option.some.injEq] at goalColumn
  obtain ⟨_, goalInWord, sameGoal⟩ := goalColumn
  have scopeReadable : scope.check = .ok () := by
    unfold Scope.check
    cases site : scope.siteId with
    | none => rfl
    | some siteId =>
        simp only [site] at siteColumn
        change (checkWord siteId >>= fun _ => Except.ok (some siteId)) = _ at siteColumn
        obtain ⟨_, inWord, _⟩ := Except.bind_eq_ok_iff.mp siteColumn
        exact inWord
  have sameKey : occurrence.key goal = .ok row.dedupeKey := by
    rw [isKey]
    cases key <;> exact keyColumn
  exact ⟨goalInWord, scopeReadable, sameGoal.symm, sameKey, sessionColumn, visitorColumn⟩

theorem draft_fills (drafted : occurrence.draft? scope goal = some draft) :
    occurrence.Fills scope goal draft := by
  obtain ⟨_, fields, built, made⟩ := (draft?_eq_some_iff occurrence scope goal draft).mp drafted
  exact fills_of_makes built made
theorem newRow?_eq_some_iff (database : Database) (row : Conversion) :
    occurrence.newRow? scope goal database = some row ↔
      ∃ draft, occurrence.draft? scope goal = some draft ∧
        (∀ other ∈ database.conversions, ¬draft.SharesKey other) ∧
        row = { draft with id := database.nextId (database.conversions.map (·.id)) } := by
  simp only [newRow?, Option.bind_eq_some_iff, Database.accepted?_eq_some_iff]

theorem newRow?_fills {database : Database} {row : Conversion}
    (isNew : occurrence.newRow? scope goal database = some row) :
    occurrence.Fills scope goal row := by
  obtain ⟨draft, drafted, _, rfl⟩ := (newRow?_eq_some_iff database row).mp isNew
  have fills := draft_fills drafted
  exact ⟨fills.goalInWord, fills.scopeReadable, fills.goalId, fills.dedupeKey, fills.sessionId,
    fills.visitorId⟩
theorem keysUnique_newRow? {database : Database} (unique : database.KeysUnique) :
    (database.withConversions (occurrence.newRow? scope goal database).toList).KeysUnique := by
  cases made : occurrence.newRow? scope goal database with
  | none => simpa using unique
  | some row =>
      obtain ⟨draft, _, keyFree, rfl⟩ := (newRow?_eq_some_iff database row).mp made
      exact unique.withRow keyFree

theorem withConversions_newRows_cons (occurrence : Occurrence) (scope : Scope) (goal : Goal)
    (rest : List Goal) (database : Database) :
    let next := database.withConversions (occurrence.newRow? scope goal database).toList
    database.withConversions ((occurrence.newRows scope (goal :: rest) database).map Prod.snd) =
      next.withConversions ((occurrence.newRows scope rest next).map Prod.snd) := by
  simp only [newRows]
  cases occurrence.newRow? scope goal database with
  | none => simp
  | some row => simp [Database.withConversions_append]

theorem newRows_append (occurrence : Occurrence) (scope : Scope) (first second : List Goal)
    (database : Database) :
    occurrence.newRows scope (first ++ second) database =
      occurrence.newRows scope first database ++
        occurrence.newRows scope second
          (database.withConversions ((occurrence.newRows scope first database).map Prod.snd)) := by
  induction first generalizing database with
  | nil => simp [newRows]
  | cons goal rest ih =>
      simp only [List.cons_append, newRows]
      cases occurrence.newRow? scope goal database with
      | none => exact ih database
      | some row =>
          simp only [List.map_cons, List.cons_append, ih (database.withConversions [row]),
            Database.withConversions_append, List.nil_append]
theorem newRows_fills {goals : List Goal} {database : Database} {row : Goal × Conversion}
    (isNew : row ∈ occurrence.newRows scope goals database) :
    row.1 ∈ goals ∧ occurrence.Fills scope row.1 row.2 := by
  induction goals generalizing database with
  | nil => simp [newRows] at isNew
  | cons goal rest ih =>
      simp only [newRows] at isNew
      cases made : occurrence.newRow? scope goal database with
      | none =>
          simp only [made] at isNew
          obtain ⟨known, fills⟩ := ih isNew
          exact ⟨List.mem_cons_of_mem goal known, fills⟩
      | some first =>
          simp only [made, List.mem_cons] at isNew
          rcases isNew with rfl | later
          · exact ⟨List.mem_cons_self, newRow?_fills made⟩
          · obtain ⟨known, fills⟩ := ih later
            exact ⟨List.mem_cons_of_mem goal known, fills⟩

theorem newRows_covers {goals : List Goal} (known : goal ∈ goals)
    (drafted : occurrence.draft? scope goal = some draft) (database : Database) :
    (∃ other ∈ database.conversions, draft.SharesKey other) ∨
      ∃ row ∈ occurrence.newRows scope goals database,
        row.2.goalId = draft.goalId ∧ row.2.dedupeKey = draft.dedupeKey := by
  induction goals generalizing database with
  | nil => simp at known
  | cons first rest ih =>
      simp only [newRows]
      rcases List.mem_cons.mp known with rfl | later
      · cases made : occurrence.newRow? scope goal database with
        | some row =>
            obtain ⟨own, ownDrafted, _, rfl⟩ := (newRow?_eq_some_iff database row).mp made
            obtain rfl := Option.some.inj (drafted.symm.trans ownDrafted)
            exact Or.inr ⟨_, List.mem_cons_self, rfl, rfl⟩
        | none =>
            simp only [newRow?, drafted, Option.bind_some] at made
            exact Or.inl ((database.accepted?_eq_none_iff draft).mp made)
      · cases made : occurrence.newRow? scope first database with
        | none => exact ih later database
        | some row =>
            rcases ih later (database.withConversions [row]) with ⟨other, member, shared⟩ | found
            · rw [Database.withConversions_conversions] at member
              rcases List.mem_append.mp member with old | new
              · exact Or.inl ⟨other, old, shared⟩
              · -- The row of an earlier goal took the key.
                obtain rfl := List.mem_singleton.mp new
                obtain ⟨sameGoal, key, draftKey, otherKey⟩ := shared
                exact Or.inr ⟨_, List.mem_cons_self, sameGoal.symm, otherKey.trans draftKey.symm⟩
            · obtain ⟨added, isNew, same⟩ := found
              exact Or.inr ⟨added, List.mem_cons_of_mem _ isNew, same⟩
theorem keysUnique_newRows (occurrence : Occurrence) (scope : Scope) (goals : List Goal)
    {database : Database} (unique : database.KeysUnique) :
    (database.withConversions
      ((occurrence.newRows scope goals database).map Prod.snd)).KeysUnique := by
  induction goals generalizing database with
  | nil => simpa [newRows] using unique
  | cons goal rest ih =>
      rw [withConversions_newRows_cons]
      exact ih (keysUnique_newRow? unique)

theorem newRows_eq_nil {goals : List Goal}
    (undrafted : ∀ goal ∈ goals, occurrence.draft? scope goal = none) (database : Database) :
    occurrence.newRows scope goals database = [] := by
  induction goals with
  | nil => rfl
  | cons goal rest ih =>
      have none := undrafted goal List.mem_cons_self
      simp only [newRows, newRow?, none, Option.bind_none]
      exact ih fun other member => undrafted other (List.mem_cons_of_mem goal member)

end

end Occurrence
end ConversionTracking
