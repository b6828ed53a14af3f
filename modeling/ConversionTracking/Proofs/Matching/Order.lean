import ConversionTracking.Proofs.Matching.Evaluate

/-!
The order in which triggers arrive decides which of several conversions with one key is stored, but
not which keys are taken, nor how many conversions without a key a goal has.
-/

namespace ConversionTracking

/-- A trigger with the session and the visitor that it is said to belong to. -/
structure Visit where
  trigger : Trigger
  session : Value
  visitor : Value

namespace Visit

def occurrence? (visit : Visit) : Option Occurrence :=
  Occurrence.of? visit.trigger visit.session visit.visitor

end Visit

namespace Occurrence

/-- The trigger satisfies an active goal within the scope, and its row can be resolved and stored:
an empty table of conversions takes it. -/
structure Converts (occurrence : Occurrence) (scope : Scope) (database : Database) (goal : Goal) :
    Prop where
  known : goal ∈ database.goals
  visible : goal.isVisible scope = true
  active : goal.isActive = true
  inPool : ∃ goalType ∈ occurrence.kind.goalTypes, goal.goalType = goalType.name
  satisfied : (goal.isSatisfiedBy occurrence.trigger).result = .ok true
  storable : ∃ row, (occurrence.record scope goal).result Database.empty = .ok (some row)

section

variable {occurrence : Occurrence} {scope : Scope} {goal : Goal}

theorem newRow?_empty :
    occurrence.newRow? scope goal Database.empty =
      (occurrence.draft? scope goal).map fun draft => { draft with id := 1 } := by
  unfold newRow?
  cases occurrence.draft? scope goal <;> rfl

theorem converts_iff (database : Database) :
    occurrence.Converts scope database goal ↔
      goal ∈ database.pool scope occurrence.kind ∧ (occurrence.draft? scope goal).isSome := by
  rw [Database.mem_pool_iff, Option.isSome_iff_exists]
  have storedIff (satisfied : (goal.isSatisfiedBy occurrence.trigger).result = .ok true) :
      (∃ row, (occurrence.record scope goal).result Database.empty = .ok (some row)) ↔
        ∃ draft, occurrence.draft? scope goal = some draft := by
    simp only [← Conversions.stored?_eq_some_iff, stored?_record scope _ satisfied, newRow?_empty,
      Option.map_eq_some_iff]
    constructor
    · rintro ⟨_, draft, drafted, _⟩
      exact ⟨draft, drafted⟩
    · rintro ⟨draft, drafted⟩
      exact ⟨_, draft, drafted, rfl⟩
  constructor
  · rintro ⟨known, visible, active, inPool, satisfied, storable⟩
    exact ⟨⟨known, visible, active, inPool⟩, (storedIff satisfied).mp storable⟩
  · rintro ⟨⟨known, visible, active, inPool⟩, draft, drafted⟩
    have satisfied := ((draft?_eq_some_iff occurrence scope goal draft).mp drafted).1
    exact ⟨known, visible, active, inPool, satisfied, (storedIff satisfied).mpr ⟨draft, drafted⟩⟩

theorem hasKey_newRow? (database : Database) (goalId : Int) (key : String) :
    (database.withConversions (occurrence.newRow? scope goal database).toList).HasKey goalId key ↔
      database.HasKey goalId key ∨
        ∃ draft ∈ occurrence.draft? scope goal,
          draft.goalId = goalId ∧ draft.dedupeKey = some key := by
  rw [Database.hasKey_withConversions]
  unfold newRow?
  cases occurrence.draft? scope goal with
  | none => simp
  | some draft =>
      simp only [Option.bind_some, Option.mem_def, Option.some.injEq, exists_eq_left']
      cases accepted : database.accepted? draft with
      | some row =>
          obtain ⟨_, rfl⟩ := (database.accepted?_eq_some_iff draft row).mp accepted
          simp
      | none =>
          obtain ⟨other, member, sameGoal, taken, draftKey, otherKey⟩ :=
            (database.accepted?_eq_none_iff draft).mp accepted
          constructor
          · rintro (old | ⟨_, absent, _⟩)
            · exact Or.inl old
            · simp at absent
          · rintro (old | ⟨isGoal, isKey⟩)
            · exact Or.inl old
            · have sameKey : taken = key := Option.some.inj (draftKey.symm.trans isKey)
              exact Or.inl ⟨other, member, sameGoal.symm.trans isGoal, sameKey ▸ otherKey⟩

theorem unkeyedCount_newRow? (database : Database) (goalId : Int) :
    (database.withConversions (occurrence.newRow? scope goal database).toList).unkeyedCount goalId =
      database.unkeyedCount goalId +
        (occurrence.draft? scope goal).toList.countP fun draft =>
          draft.goalId == goalId && draft.dedupeKey.isNone := by
  rw [Database.unkeyedCount_withConversions]
  unfold newRow?
  cases occurrence.draft? scope goal with
  | none => rfl
  | some draft =>
      simp only [Option.bind_some]
      cases accepted : database.accepted? draft with
      | some row =>
          obtain ⟨_, rfl⟩ := (database.accepted?_eq_some_iff draft row).mp accepted
          rfl
      | none =>
          obtain ⟨_, _, _, taken, draftKey, _⟩ :=
            (database.accepted?_eq_none_iff draft).mp accepted
          simp [draftKey]

theorem hasKey_newRows (goals : List Goal) (database : Database) (goalId : Int) (key : String) :
    (database.withConversions ((occurrence.newRows scope goals database).map Prod.snd)).HasKey
        goalId key ↔
      database.HasKey goalId key ∨
        ∃ draft ∈ goals.filterMap (occurrence.draft? scope),
          draft.goalId = goalId ∧ draft.dedupeKey = some key := by
  induction goals generalizing database with
  | nil => simp [newRows]
  | cons goal rest ih =>
      rw [withConversions_newRows_cons, ih, hasKey_newRow?, or_assoc]
      apply or_congr_right
      cases drafted : occurrence.draft? scope goal with
      | none => simp [drafted]
      | some draft => simp [drafted]

theorem unkeyedCount_newRows (goals : List Goal) (database : Database) (goalId : Int) :
    (database.withConversions ((occurrence.newRows scope goals database).map Prod.snd)).unkeyedCount
        goalId =
      database.unkeyedCount goalId +
        (goals.filterMap (occurrence.draft? scope)).countP fun draft =>
          draft.goalId == goalId && draft.dedupeKey.isNone := by
  induction goals generalizing database with
  | nil => simp [newRows]
  | cons goal rest ih =>
      rw [withConversions_newRows_cons, ih, unkeyedCount_newRow?, Nat.add_assoc]
      cases drafted : occurrence.draft? scope goal with
      | none => simp [drafted]
      | some draft => simp [drafted, List.countP_cons, Nat.add_comm]

end

end Occurrence

namespace Matcher

/-- What is left when triggers are evaluated one after another. An evaluation that fails does not
stop the next. -/
def evaluateAll (settings : Matcher) (visits : List Visit) (database : Database) : Database :=
  visits.foldl (fun current visit =>
    (settings.evaluate visit.trigger visit.session visit.visitor).after current) database

def drafts (settings : Matcher) (database : Database) (visit : Visit) : List Conversion :=
  match visit.occurrence? with
  | none => []
  | some occurrence =>
      (database.pool settings.scope occurrence.kind).filterMap (occurrence.draft? settings.scope)

variable (settings : Matcher)

theorem drafts_evaluate (database : Database) (visit other : Visit) :
    settings.drafts
        ((settings.evaluate visit.trigger visit.session visit.visitor).after database) other =
      settings.drafts database other := by
  rw [after_evaluate]
  rfl

theorem hasKey_evaluate (database : Database) (visit : Visit) (goalId : Int) (key : String) :
    ((settings.evaluate visit.trigger visit.session visit.visitor).after database).HasKey
        goalId key ↔
      database.HasKey goalId key ∨
        ∃ draft ∈ settings.drafts database visit,
          draft.goalId = goalId ∧ draft.dedupeKey = some key := by
  rw [after_evaluate]
  unfold newRows drafts Visit.occurrence?
  cases Occurrence.of? visit.trigger visit.session visit.visitor with
  | none => simp
  | some occurrence => exact Occurrence.hasKey_newRows _ database goalId key

theorem unkeyedCount_evaluate (database : Database) (visit : Visit) (goalId : Int) :
    ((settings.evaluate visit.trigger visit.session visit.visitor).after database).unkeyedCount
        goalId =
      database.unkeyedCount goalId + (settings.drafts database visit).countP fun draft =>
        draft.goalId == goalId && draft.dedupeKey.isNone := by
  rw [after_evaluate]
  unfold newRows drafts Visit.occurrence?
  cases Occurrence.of? visit.trigger visit.session visit.visitor with
  | none => simp
  | some occurrence => exact Occurrence.unkeyedCount_newRows _ database goalId

theorem hasKey_evaluateAll (visits : List Visit) (database : Database) (goalId : Int)
    (key : String) :
    (settings.evaluateAll visits database).HasKey goalId key ↔
      database.HasKey goalId key ∨
        ∃ draft ∈ visits.flatMap (settings.drafts database),
          draft.goalId = goalId ∧ draft.dedupeKey = some key := by
  induction visits generalizing database with
  | nil => simp [evaluateAll]
  | cons visit rest ih =>
      have sameDrafts := funext (settings.drafts_evaluate database visit)
      rw [evaluateAll, List.foldl_cons, ← evaluateAll, ih, hasKey_evaluate, sameDrafts, or_assoc]
      simp only [List.flatMap_cons, List.mem_append, or_and_right, exists_or]

theorem unkeyedCount_evaluateAll (visits : List Visit) (database : Database) (goalId : Int) :
    (settings.evaluateAll visits database).unkeyedCount goalId =
      database.unkeyedCount goalId +
        (visits.flatMap (settings.drafts database)).countP fun draft =>
          draft.goalId == goalId && draft.dedupeKey.isNone := by
  induction visits generalizing database with
  | nil => simp [evaluateAll]
  | cons visit rest ih =>
      have sameDrafts := funext (settings.drafts_evaluate database visit)
      rw [evaluateAll, List.foldl_cons, ← evaluateAll, ih, unkeyedCount_evaluate, sameDrafts,
        List.flatMap_cons, List.countP_append, Nat.add_assoc]

theorem exists_draft_iff (visits : List Visit) (database : Database) (goalId : Int)
    (key : String) :
    (∃ draft ∈ visits.flatMap (settings.drafts database),
        draft.goalId = goalId ∧ draft.dedupeKey = some key) ↔
      ∃ visit ∈ visits, ∃ occurrence ∈ visit.occurrence?, ∃ goal,
        occurrence.Converts settings.scope database goal ∧ goal.id = goalId ∧
          occurrence.key goal = .ok (some key) := by
  constructor
  · rintro ⟨draft, member, isGoal, isKey⟩
    obtain ⟨visit, visited, drafted⟩ := List.mem_flatMap.mp member
    unfold drafts at drafted
    cases known : visit.occurrence? with
    | none => simp [known] at drafted
    | some occurrence =>
        simp only [known, List.mem_filterMap] at drafted
        obtain ⟨goal, inPool, made⟩ := drafted
        have fills := Occurrence.draft_fills made
        refine ⟨visit, visited, occurrence, known, goal, ?_, fills.goalId.symm.trans isGoal,
          isKey ▸ fills.dedupeKey⟩
        exact (Occurrence.converts_iff database).mpr ⟨inPool, by rw [made]; rfl⟩
  · rintro ⟨visit, visited, occurrence, known, goal, converts, isGoal, isKey⟩
    obtain ⟨inPool, isDrafted⟩ := (Occurrence.converts_iff database).mp converts
    obtain ⟨draft, made⟩ := Option.isSome_iff_exists.mp isDrafted
    have fills := Occurrence.draft_fills made
    refine ⟨draft, List.mem_flatMap.mpr ⟨visit, visited, ?_⟩, fills.goalId.trans isGoal,
      Except.ok.inj (fills.dedupeKey.symm.trans isKey)⟩
    unfold drafts
    rw [Option.mem_def.mp known]
    exact List.mem_filterMap.mpr ⟨goal, inPool, made⟩

/-- Triggers that are evaluated in any order leave the same keys taken and the same numbers of
conversions without a key. A key is taken at the end exactly when it was at the start or some
trigger converts a goal under it. -/
theorem evaluateAll_perm (database : Database) {visits reordered : List Visit}
    (permuted : visits.Perm reordered) :
    (∀ goalId key, (settings.evaluateAll visits database).HasKey goalId key ↔
        (settings.evaluateAll reordered database).HasKey goalId key) ∧
      (∀ goalId, (settings.evaluateAll visits database).unkeyedCount goalId =
        (settings.evaluateAll reordered database).unkeyedCount goalId) ∧
      ∀ goalId key, (settings.evaluateAll visits database).HasKey goalId key ↔
        database.HasKey goalId key ∨
          ∃ visit ∈ visits, ∃ occurrence ∈ visit.occurrence?, ∃ goal,
            occurrence.Converts settings.scope database goal ∧ goal.id = goalId ∧
              occurrence.key goal = .ok (some key) := by
  have sameDrafts := permuted.flatMap_right (settings.drafts database)
  refine ⟨?_, ?_, ?_⟩
  · intro goalId key
    rw [hasKey_evaluateAll, hasKey_evaluateAll]
    simp only [sameDrafts.mem_iff]
  · intro goalId
    rw [unkeyedCount_evaluateAll, unkeyedCount_evaluateAll, sameDrafts.countP_eq]
  · intro goalId key
    rw [hasKey_evaluateAll, exists_draft_iff]

def signupGoal : Goal where
  id := 1
  siteId := none
  tenantId := none
  name := "Signup"
  description := none
  goalType := "event"
  conditions := .map [(.text "event_name", .text "signup")]
  valueType := "none"
  fixedValue := none
  dynamicPath := none
  allowMultiple := false
  isActive := true
  funnelSteps := .null

def signupVisit (properties : List (Value × Value)) : Visit where
  trigger := .event ⟨.text "signup", .null, .map properties, .null, .null, .null, .null, .null⟩
  session := .text "s"
  visitor := .null

theorem signups_in_any_order :
    let settings : Matcher := ⟨.everything, .made, []⟩
    let database : Database := { Database.empty with goals := [signupGoal] }
    let plain := signupVisit []
    let unstorable := signupVisit [(.text "tags", .set [])]
    [unstorable, plain].Perm [plain, unstorable] ∧
      ((settings.evaluateAll [unstorable, plain] database).HasKey 1 "session:s" ↔
        (settings.evaluateAll [plain, unstorable] database).HasKey 1 "session:s") ∧
      (settings.evaluateAll [unstorable, plain] database).conversions.map (·.dedupeKey) =
        [some "session:s"] := by
  intro settings database plain unstorable
  have permuted : [unstorable, plain].Perm [plain, unstorable] := List.Perm.swap _ _ []
  refine ⟨permuted, (evaluateAll_perm settings database permuted).1 1 "session:s", ?_⟩
  decide +kernel

end Matcher

end ConversionTracking
