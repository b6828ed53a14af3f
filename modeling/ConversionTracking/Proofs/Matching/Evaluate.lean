import ConversionTracking.Proofs.Matching.Rows

/-!
What the evaluation of a trigger does, goal by goal and as a whole, by the rows that are new. The
first look for a conversion with the same key decides nothing: the rule of the table turns away what
the look would have found.
-/

namespace ConversionTracking

namespace Database

def typePool (database : Database) (scope : Scope) (goalType : GoalType) : List Goal :=
  goalsById ((database.visibleGoals scope).filter fun goal =>
    goal.isActive && goal.goalType == goalType.name)

def pool (database : Database) (scope : Scope) (kind : TriggerKind) : List Goal :=
  kind.goalTypes.flatMap (database.typePool scope)

theorem activeGoalsOfType_eq {scope : Scope} (inWord : scope.check = .ok ()) (database : Database)
    (goalType : GoalType) :
    database.activeGoalsOfType scope goalType.name = .ok (database.typePool scope goalType) := by
  rw [activeGoalsOfType, inWord]
  rfl

theorem mem_pool_iff (database : Database) (scope : Scope) (kind : TriggerKind) (goal : Goal) :
    goal ∈ database.pool scope kind ↔
      goal ∈ database.goals ∧ goal.isVisible scope = true ∧ goal.isActive = true ∧
        ∃ goalType ∈ kind.goalTypes, goal.goalType = goalType.name := by
  simp only [pool, typePool, goalsById, visibleGoals, List.mem_flatMap, List.mem_mergeSort,
    List.mem_filter, Bool.and_eq_true, beq_iff_eq]
  constructor
  · rintro ⟨goalType, inPool, ⟨member, visible⟩, active, named⟩
    exact ⟨member, visible, active, goalType, inPool, named⟩
  · rintro ⟨member, visible, active, goalType, inPool, named⟩
    exact ⟨goalType, inPool, ⟨member, visible⟩, active, named⟩

end Database
namespace Occurrence

section

variable {occurrence : Occurrence} {scope : Scope} {goal : Goal}

theorem newRow?_of_exists {database : Database} {key : Option String}
    (isKey : occurrence.key goal = .ok key)
    (found : database.conversionExists goal.id key = .ok true) :
    occurrence.newRow? scope goal database = none := by
  rw [Option.eq_none_iff_forall_not_mem]
  intro row isNew
  obtain ⟨draft, drafted, keyFree, _⟩ := (newRow?_eq_some_iff database row).mp isNew
  have fills := draft_fills drafted
  have sameKey := Except.ok.inj (fills.dedupeKey.symm.trans isKey)
  cases key with
  | none => simp [Database.conversionExists] at found
  | some text =>
      simp only [Database.conversionExists, Except.bind_eq_ok_iff, pure, Except.pure,
        Except.ok.injEq] at found
      obtain ⟨_, _, found⟩ := found
      obtain ⟨other, member, same⟩ := List.any_eq_true.mp found
      simp only [Bool.and_eq_true, beq_iff_eq] at same
      exact keyFree other member ⟨fills.goalId.trans same.1.symm, text, sameKey, same.2⟩

theorem newRow?_of_exists_error {database : Database} {key : Option String} {fault : Fault}
    (failed : database.conversionExists goal.id key = .error fault) :
    occurrence.newRow? scope goal database = none := by
  rw [Option.eq_none_iff_forall_not_mem]
  intro row isNew
  obtain ⟨draft, drafted, _, _⟩ := (newRow?_eq_some_iff database row).mp isNew
  have inWord := (draft_fills drafted).goalInWord
  cases key with
  | none => simp [Database.conversionExists] at failed
  | some text =>
      simp [Database.conversionExists, inWord, bind, Except.bind, pure, Except.pure] at failed

theorem newRow?_of_key_error {database : Database} {fault : Fault}
    (failed : occurrence.key goal = .error fault) :
    occurrence.newRow? scope goal database = none := by
  rw [Option.eq_none_iff_forall_not_mem]
  intro row isNew
  have isKey := (newRow?_fills isNew).dedupeKey
  rw [failed] at isKey
  cases isKey

theorem stored?_record (scope : Scope) (database : Database)
    (satisfied : (goal.isSatisfiedBy occurrence.trigger).result = .ok true) :
    Conversions.stored? ((occurrence.record scope goal).result database) =
      occurrence.newRow? scope goal database := by
  apply Option.ext
  intro row
  rw [Conversions.stored?_eq_some_iff]
  unfold record
  rw [Work.result_bind, Work.result_ofExcept]
  cases built : occurrence.conversionFields scope goal with
  | error fault => simp [newRow?, draft?, satisfied, built]
  | ok fields =>
      obtain ⟨_, _, _, _, _, _, _, _, _, _, same⟩ :=
        (conversionFields_eq_ok_iff occurrence scope goal fields).mp built
      have noId : fields.id = .null := by rw [same]
      simp only [Work.after_ofExcept, Conversions.result_insert_iff]
      cases made : fields.toRow 0 with
      | error fault =>
          have unmade : ¬database.Takes fields row := by
            intro takes
            have madeZero := (fields.toRow_eq_ok_iff 0 _).mpr (takes.makes.withId noId 0)
            simp [made] at madeZero
          simp [newRow?, draft?, satisfied, built, made, unmade, Except.toOption]
      | ok draft =>
          rw [Database.takes_iff_accepted noId ((fields.toRow_eq_ok_iff 0 draft).mp made)]
          simp [newRow?, draft?, satisfied, built, made, Except.toOption]

theorem after_record (occurrence : Occurrence) (scope : Scope) (goal : Goal) (database : Database) :
    (occurrence.record scope goal).after database = database.withConversions
      (Conversions.stored? ((occurrence.record scope goal).result database)).toList := by
  unfold record
  rw [Work.after_bind, Work.result_bind, Work.result_ofExcept]
  cases occurrence.conversionFields scope goal with
  | error fault => simp [Conversions.stored?]
  | ok fields =>
      rw [Work.after_ofExcept]
      exact Conversions.after_insert fields database

theorem record_fills {database : Database} {row : Conversion}
    (recorded : (occurrence.record scope goal).result database = .ok (some row)) :
    occurrence.Fills scope goal row := by
  unfold record at recorded
  rw [Work.result_bind, Work.result_ofExcept] at recorded
  cases built : occurrence.conversionFields scope goal with
  | error fault => simp [built] at recorded
  | ok fields =>
      simp only [built, Work.after_ofExcept, Conversions.result_insert_iff] at recorded
      exact fills_of_makes built recorded.makes

theorem keysUnique_record {database : Database} (unique : database.KeysUnique) :
    ((occurrence.record scope goal).after database).KeysUnique := by
  unfold record
  rw [Work.after_bind, Work.result_ofExcept]
  cases occurrence.conversionFields scope goal with
  | error fault => exact unique
  | ok fields => exact Conversions.keysUnique_insert fields unique

theorem after_isDue (precheck : Precheck) (database : Database) :
    (occurrence.isDue precheck goal).after database = database := by
  unfold isDue
  rw [Work.after_bind, Work.result_ofOutcome]
  cases (goal.isSatisfiedBy occurrence.trigger).result with
  | error fault => rfl
  | ok satisfied =>
      cases satisfied with
      | false => rfl
      | true =>
          simp only [Work.after_ofOutcome, ↓reduceIte]
          rw [Work.after_bind, Work.result_ofExcept]
          cases occurrence.key goal with
          | error fault => rfl
          | ok key =>
              cases precheck with
              | skipped => rfl
              | made =>
                  simp only [Work.after_ofExcept]
                  rw [Work.after_bind, Work.result_read]
                  cases database.conversionExists goal.id key <;> rfl

theorem newRow?_of_not_due (precheck : Precheck) {database : Database}
    (notDue : (occurrence.isDue precheck goal).result database ≠ .ok true) :
    occurrence.newRow? scope goal database = none := by
  unfold isDue at notDue
  rw [Work.result_bind, Work.result_ofOutcome] at notDue
  cases satisfied : (goal.isSatisfiedBy occurrence.trigger).result with
  | error fault => simp [newRow?, draft?, satisfied]
  | ok isSatisfied =>
      cases isSatisfied with
      | false => simp [newRow?, draft?, satisfied]
      | true =>
          simp only [satisfied, ↓reduceIte, Work.after_ofOutcome] at notDue
          rw [Work.result_bind, Work.result_ofExcept] at notDue
          cases isKey : occurrence.key goal with
          | error fault => exact newRow?_of_key_error isKey
          | ok key =>
              simp only [isKey, Work.after_ofExcept] at notDue
              cases precheck with
              | skipped => simp at notDue
              | made =>
                  rw [Work.result_bind, Work.result_read] at notDue
                  cases found : database.conversionExists goal.id key with
                  | error fault => exact newRow?_of_exists_error found
                  | ok taken =>
                      cases taken with
                      | true => exact newRow?_of_exists isKey found
                      | false => simp [found] at notDue

theorem satisfied_of_due {precheck : Precheck} {database : Database}
    (due : (occurrence.isDue precheck goal).result database = .ok true) :
    (goal.isSatisfiedBy occurrence.trigger).result = .ok true := by
  unfold isDue at due
  rw [Work.result_bind, Work.result_ofOutcome] at due
  cases satisfied : (goal.isSatisfiedBy occurrence.trigger).result with
  | error fault => simp [satisfied] at due
  | ok isSatisfied =>
      cases isSatisfied with
      | false => simp [satisfied] at due
      | true => rfl

/-- With or without the first look, a goal gains its new row and nothing else, and no failure
leaves its evaluation. -/
theorem convert_spec (occurrence : Occurrence) (precheck : Precheck) (scope : Scope) (goal : Goal)
    (database : Database) :
    (occurrence.convert precheck scope goal).result database =
        .ok (occurrence.newRow? scope goal database) ∧
      (occurrence.convert precheck scope goal).after database =
        database.withConversions (occurrence.newRow? scope goal database).toList := by
  unfold convert
  rw [Work.result_recover, Work.after_recover, Work.result_bind, Work.after_bind, after_isDue]
  by_cases due : (occurrence.isDue precheck goal).result database = .ok true
  · have stored := stored?_record scope database (satisfied_of_due due)
    have left := after_record occurrence scope goal database
    rw [stored] at left
    simp only [due, ↓reduceIte, left]
    cases recorded : (occurrence.record scope goal).result database with
    | ok row? =>
        rw [recorded] at stored
        exact ⟨congrArg Except.ok stored, rfl⟩
    | error fault =>
        rw [recorded] at stored
        rw [← stored]
        cases fault <;> exact ⟨rfl, rfl⟩
  · rw [newRow?_of_not_due precheck due]
    cases result : (occurrence.isDue precheck goal).result database with
    | error fault => cases fault <;> exact ⟨rfl, (Database.withConversions_nil database).symm⟩
    | ok isDue =>
        cases isDue with
        | true => exact absurd result due
        | false => exact ⟨rfl, (Database.withConversions_nil database).symm⟩
end

end Occurrence

theorem Listener.result_deliver (notification : Notification) (listeners : List Listener) :
    (deliver notification listeners).result =
      .ok (listeners.map fun listener => ⟨listener, notification⟩) := by
  induction listeners with
  | nil => rfl
  | cons listener rest ih =>
      rw [deliver]
      split <;> simp only [Outcome.result_bind, Outcome.result_note, ih, Outcome.result_pure,
        List.map_cons]

namespace Evaluation

def ofRows (occurrence : Occurrence) (listeners : List Listener)
    (rows : List (Goal × Conversion)) : Evaluation where
  conversions := rows.map Prod.snd
  deliveries := rows.flatMap fun row =>
    listeners.map fun listener => ⟨listener, occurrence.notification row.1 row.2⟩

theorem ofRows_append (occurrence : Occurrence) (listeners : List Listener)
    (first second : List (Goal × Conversion)) :
    ofRows occurrence listeners (first ++ second) =
      (ofRows occurrence listeners first).append (ofRows occurrence listeners second) := by
  simp [ofRows, append]

end Evaluation

namespace Matcher

variable (settings : Matcher) (occurrence : Occurrence)

theorem evaluateGoal_spec (goal : Goal) (database : Database) :
    (settings.evaluateGoal occurrence goal).result database = .ok (Evaluation.ofRows occurrence
        settings.listeners (occurrence.newRows settings.scope [goal] database)) ∧
      (settings.evaluateGoal occurrence goal).after database = database.withConversions
        ((occurrence.newRows settings.scope [goal] database).map Prod.snd) := by
  obtain ⟨result, left⟩ := occurrence.convert_spec settings.precheck settings.scope goal database
  unfold evaluateGoal
  rw [Work.result_bind, Work.after_bind, result, left]
  simp only [Occurrence.newRows]
  cases occurrence.newRow? settings.scope goal database with
  | none => exact ⟨rfl, rfl⟩
  | some row =>
      simp only [Work.result_bind, Work.after_bind, Work.result_ofOutcome, Work.after_ofOutcome,
        Listener.result_deliver, Work.result_pure, Work.after_pure]
      simp [Evaluation.ofRows]

theorem evaluateGoals_spec (goals : List Goal) (database : Database) :
    (settings.evaluateGoals occurrence goals).result database = .ok (Evaluation.ofRows occurrence
        settings.listeners (occurrence.newRows settings.scope goals database)) ∧
      (settings.evaluateGoals occurrence goals).after database = database.withConversions
        ((occurrence.newRows settings.scope goals database).map Prod.snd) := by
  induction goals generalizing database with
  | nil => exact ⟨rfl, (Database.withConversions_nil database).symm⟩
  | cons goal rest ih =>
      obtain ⟨firstResult, firstLeft⟩ := evaluateGoal_spec settings occurrence goal database
      obtain ⟨restResult, restLeft⟩ := ih ((settings.evaluateGoal occurrence goal).after database)
      have split := occurrence.newRows_append settings.scope [goal] rest database
      rw [List.singleton_append] at split
      rw [firstLeft] at restResult restLeft
      rw [evaluateGoals, Work.result_bind, Work.after_bind, firstResult, firstLeft]
      simp only [Work.result_bind, Work.after_bind, restResult, restLeft, Work.result_pure,
        Work.after_pure, split, Evaluation.ofRows_append, List.map_append,
        Database.withConversions_append, and_self]

theorem evaluateTypes_spec (types : List GoalType) (database : Database)
    (inWord : settings.scope.check = .ok ()) :
    (settings.evaluateTypes occurrence types).result database = .ok (Evaluation.ofRows occurrence
        settings.listeners (occurrence.newRows settings.scope
          (types.flatMap (database.typePool settings.scope)) database)) ∧
      (settings.evaluateTypes occurrence types).after database = database.withConversions
        ((occurrence.newRows settings.scope
          (types.flatMap (database.typePool settings.scope)) database).map Prod.snd) := by
  induction types generalizing database with
  | nil => exact ⟨rfl, (Database.withConversions_nil database).symm⟩
  | cons goalType rest ih =>
      have read := Database.activeGoalsOfType_eq inWord database goalType
      obtain ⟨firstResult, firstLeft⟩ := evaluateGoals_spec settings occurrence
        (database.typePool settings.scope goalType) database
      obtain ⟨restResult, restLeft⟩ := ih ((settings.evaluateGoals occurrence
        (database.typePool settings.scope goalType)).after database)
      have samePool : ∀ added,
          (database.withConversions added).typePool settings.scope =
            database.typePool settings.scope := fun _ => rfl
      rw [firstLeft, samePool] at restResult restLeft
      simp only [evaluateTypes, Work.result_bind, Work.after_bind, Work.result_read,
        Work.after_read, read, firstResult, firstLeft, restResult, restLeft, Work.result_pure,
        Work.after_pure, List.flatMap_cons, Occurrence.newRows_append, Evaluation.ofRows_append,
        List.map_append, Database.withConversions_append, and_self]

def newRows (settings : Matcher) (trigger : Trigger) (session visitor : Value)
    (database : Database) : List (Goal × Conversion) :=
  match Occurrence.of? trigger session visitor with
  | none => []
  | some occurrence =>
      occurrence.newRows settings.scope (database.pool settings.scope occurrence.kind) database

theorem newRows_of_unreadable {scope : Scope} {fault : Fault}
    (unreadable : scope.check = .error fault) (goals : List Goal) (database : Database) :
    occurrence.newRows scope goals database = [] := by
  apply Occurrence.newRows_eq_nil
  intro goal _
  rw [Option.eq_none_iff_forall_not_mem]
  intro draft drafted
  have readable := (Occurrence.draft_fills drafted).scopeReadable
  simp [unreadable] at readable

theorem evaluateTypes_of_unreadable {fault : Fault}
    (unreadable : settings.scope.check = .error fault) (goalType : GoalType)
    (rest : List GoalType) (database : Database) :
    (settings.evaluateTypes occurrence (goalType :: rest)).result database = .error fault ∧
      (settings.evaluateTypes occurrence (goalType :: rest)).after database = database := by
  have failed : database.activeGoalsOfType settings.scope goalType.name = .error fault := by
    rw [Database.activeGoalsOfType, unreadable]
    rfl
  rw [evaluateTypes, Work.result_bind, Work.after_bind, Work.result_read, Work.after_read, failed]
  exact ⟨rfl, rfl⟩

variable (trigger : Trigger) (session visitor : Value) (database : Database)

theorem evaluateTypes_of_pool (occurrence : Occurrence) :
    (settings.evaluateTypes occurrence occurrence.kind.goalTypes).result database =
        settings.scope.check.map (fun _ => Evaluation.ofRows occurrence settings.listeners
          (occurrence.newRows settings.scope (database.pool settings.scope occurrence.kind)
            database)) ∧
      (settings.evaluateTypes occurrence occurrence.kind.goalTypes).after database =
        database.withConversions ((occurrence.newRows settings.scope
          (database.pool settings.scope occurrence.kind) database).map Prod.snd) := by
  cases readable : settings.scope.check with
  | ok _ => exact evaluateTypes_spec settings occurrence _ database readable
  | error fault =>
      rw [newRows_of_unreadable _ readable, List.map_nil, Database.withConversions_nil]
      cases occurrence.kind <;> exact evaluateTypes_of_unreadable settings _ readable _ _ database

/-- An evaluation returns its new rows and what listeners hear of them. It fails only when the
session or the visitor cannot be written out, or the scope's site is no number that the database can
read. -/
theorem result_evaluate :
    (settings.evaluate trigger session visitor).result database =
      (Occurrence.read trigger session visitor).bind fun occurrence? =>
        match occurrence? with
        | none => .ok .empty
        | some occurrence => settings.scope.check.map fun _ =>
            Evaluation.ofRows occurrence settings.listeners
              (settings.newRows trigger session visitor database) := by
  unfold evaluate newRows Occurrence.of?
  rw [Work.result_bind, Work.result_ofExcept]
  cases Occurrence.read trigger session visitor with
  | error fault => rfl
  | ok occurrence? =>
      cases occurrence? with
      | none => rfl
      | some occurrence => exact (evaluateTypes_of_pool settings database occurrence).1

theorem result_evaluate_of_occurrence {occurrence : Occurrence}
    (known : Occurrence.of? trigger session visitor = some occurrence) :
    (settings.evaluate trigger session visitor).result database =
      settings.scope.check.map fun _ => Evaluation.ofRows occurrence settings.listeners
        (settings.newRows trigger session visitor database) := by
  rw [result_evaluate, (Occurrence.of?_eq_some_iff_read ..).mp known]
  rfl

/-- An evaluation adds its new rows to the table of conversions and changes nothing else. -/
theorem after_evaluate :
    (settings.evaluate trigger session visitor).after database = database.withConversions
      ((settings.newRows trigger session visitor database).map Prod.snd) := by
  unfold evaluate newRows Occurrence.of?
  rw [Work.after_bind, Work.result_ofExcept, Work.after_ofExcept]
  cases Occurrence.read trigger session visitor with
  | error fault => exact (Database.withConversions_nil database).symm
  | ok occurrence? =>
      cases occurrence? with
      | none => exact (Database.withConversions_nil database).symm
      | some occurrence => exact (evaluateTypes_of_pool settings database occurrence).2

end Matcher

end ConversionTracking
