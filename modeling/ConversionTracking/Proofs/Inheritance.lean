import ConversionTracking.Proofs.Matching.Order
import ConversionTracking.Proofs.Operations
import Mathlib.Data.List.Induction
import Mathlib.Data.List.Nodup

/-!
Conversions that a deleted goal leaves behind. They stay in their table, and the id of the last goal
is given out again when that goal is deleted, so a new goal may have conversions from the start.
-/

namespace ConversionTracking

namespace Operation

/-- In a run from the empty database a deletion takes away a goal of the id; the database is the one
just before it. -/
def Deletes (ids : IdDraw) (operations : List Operation) (goalId : Int) (database : Database) : Prop :=
  ∃ earlier scope handle later,
    operations = earlier ++ .service scope (.delete handle) :: later ∧
      database = run earlier (.empty ids) ∧ goalId ∈ database.goalIds ∧
        goalId ∉ ((ServiceCall.delete handle).after scope database).goalIds

theorem Deletes.append {ids : IdDraw} {operations : List Operation} {goalId : Int} {database : Database}
    (deletes : Deletes ids operations goalId database) (last : Operation) :
    Deletes ids (operations ++ [last]) goalId database := by
  obtain ⟨earlier, scope, handle, later, split, left, held, gone⟩ := deletes
  refine ⟨earlier, scope, handle, later ++ [last], ?_, left, held, gone⟩
  rw [split, List.append_assoc, List.cons_append]

theorem run_append (first second : List Operation) (database : Database) :
    run (first ++ second) database = run second (run first database) := List.foldl_append

theorem losesNoGoal {operation : Operation}
    (notDelete : ∀ scope handle, operation ≠ .service scope (.delete handle))
    (database : Database) : database.LosesNoGoal (operation.after database) := by
  cases operation with
  | service scope call =>
      refine ServiceCall.losesNoGoal ?_ scope database
      intro handle same
      exact notDelete scope handle (same ▸ rfl)
  | insert fields =>
      simp only [after, Conversions.after_insert]
      exact List.Subset.refl _
  | evaluate settings trigger session visitor =>
      simp only [after, Matcher.after_evaluate]
      exact List.Subset.refl _

theorem goalId_inserted {operation : Operation} (notInsert : ∀ fields, operation ≠ .insert fields)
    {database : Database} {conversion : Conversion}
    (isNew : conversion ∈ operation.inserted database) :
    conversion.goalId ∈ database.goalIds := by
  cases operation with
  | service scope call => simp [inserted] at isNew
  | insert fields => exact absurd rfl (notInsert fields)
  | evaluate settings trigger session visitor =>
      simp only [inserted, Matcher.newRows] at isNew
      cases known : Occurrence.of? trigger session visitor with
      | none => simp [known] at isNew
      | some occurrence =>
          simp only [known, List.mem_map] at isNew
          obtain ⟨row, inRows, rfl⟩ := isNew
          obtain ⟨inPool, fills⟩ := Occurrence.newRows_fills inRows
          rw [fills.goalId]
          exact List.mem_map_of_mem ((Database.mem_pool_iff _ _ _ _).mp inPool).1

theorem owned_or_deleted {ids : IdDraw} {operations : List Operation}
    (noInsert : ∀ fields, Operation.insert fields ∉ operations) {conversion : Conversion}
    (member : conversion ∈ (run operations (.empty ids)).conversions) :
    conversion.goalId ∈ (run operations (.empty ids)).goalIds ∨
      ∃ database, Deletes ids operations conversion.goalId database ∧
        conversion ∈ database.conversions := by
  induction operations using List.reverseRecOn with
  | nil => simp [run, Database.empty] at member
  | append_singleton earlier last ih =>
      have earlierNoInsert : ∀ fields, Operation.insert fields ∉ earlier := by
        intro fields isMember
        exact noInsert fields (List.mem_append_left [last] isMember)
      have notInsert : ∀ fields, last ≠ .insert fields := by
        intro fields same
        exact noInsert fields (List.mem_append_right earlier (by simp [same]))
      have step : run (earlier ++ [last]) (.empty ids) = last.after (run earlier (.empty ids)) :=
        run_append earlier [last] (.empty ids)
      rw [step] at member ⊢
      rw [conversions_after] at member
      rcases List.mem_append.mp member with old | new
      · rcases ih earlierNoInsert old with owned | ⟨database, deletes, held⟩
        · -- Its goal is still there, or the last operation is the deletion that takes it away.
          by_cases kept : conversion.goalId ∈ (last.after (run earlier (.empty ids))).goalIds
          · exact Or.inl kept
          · by_cases isDelete : ∃ scope handle, last = .service scope (.delete handle)
            · obtain ⟨scope, handle, rfl⟩ := isDelete
              exact Or.inr ⟨_, ⟨earlier, scope, handle, [], rfl, rfl, owned, kept⟩, old⟩
            · have notDelete : ∀ scope handle, last ≠ .service scope (.delete handle) :=
                fun scope handle same => isDelete ⟨scope, handle, same⟩
              exact absurd (losesNoGoal notDelete _ owned) kept
        · exact Or.inr ⟨database, deletes.append last, held⟩
      · have notDelete : ∀ scope handle, last ≠ .service scope (.delete handle) := by
          rintro scope handle rfl
          simp [inserted] at new
        exact Or.inl (losesNoGoal notDelete _ (goalId_inserted notInsert new))

theorem Deletes.conversions_subset {ids : IdDraw} {operations : List Operation}
    (noInsert : ∀ fields, Operation.insert fields ∉ operations) {goalId : Int}
    {database : Database} (deletes : Deletes ids operations goalId database) :
    database.conversions ⊆ (run operations (.empty ids)).conversions := by
  obtain ⟨earlier, scope, handle, later, rfl, rfl, _, _⟩ := deletes
  have restNoInsert : ∀ fields, Operation.insert fields ∉
      Operation.service scope (.delete handle) :: later := by
    intro fields member
    exact noInsert fields (List.mem_append_right earlier member)
  rw [run_append, conversions_run restNoInsert]
  exact List.subset_append_left _ _

section

variable {ids : IdDraw} {operations : List Operation} {scope : Scope} {attributes : Entries} {goal : Goal}

theorem mem_conversions_created_iff (noInsert : ∀ fields, Operation.insert fields ∉ operations)
    (created : (Goals.create scope attributes).result (run operations (.empty ids)) = .ok goal)
    (conversion : Conversion) :
    (conversion ∈ ((Goals.create scope attributes).after (run operations (.empty ids))).conversions ∧
        conversion.goalId = goal.id) ↔
      ∃ database, Deletes ids operations goal.id database ∧ conversion ∈ database.conversions ∧
        conversion.goalId = goal.id := by
  obtain ⟨isNext, left⟩ := Goals.result_create_eq_ok created
  have same : ((Goals.create scope attributes).after (run operations (.empty ids))).conversions =
      (run operations (.empty ids)).conversions := by
    rw [left]
    rfl
  rw [same]
  constructor
  · rintro ⟨member, ofGoal⟩
    rcases owned_or_deleted noInsert member with owned | ⟨database, deletes, held⟩
    · rw [ofGoal, isNext] at owned
      exact absurd owned ((run operations (.empty ids)).nextId_notMem _)
    · exact ⟨database, ofGoal ▸ deletes, held, ofGoal⟩
  · rintro ⟨database, deletes, held, ofGoal⟩
    exact ⟨deletes.conversions_subset noInsert held, ofGoal⟩

end

theorem records_iff {database : Database} (regular : database.Regular) {settings : Matcher}
    {trigger : Trigger} {session visitor : Value} {occurrence : Occurrence}
    (known : Occurrence.of? trigger session visitor = some occurrence) {goal : Goal}
    (converts : occurrence.Converts settings.scope database goal) :
    (∃ recording ∈ (Operation.evaluate settings trigger session visitor).recorded database,
        recording.conversion.goalId = goal.id) ↔
      ∀ key, occurrence.key goal = .ok (some key) → ¬database.HasKey goal.id key := by
  obtain ⟨inPool, isDrafted⟩ := (Occurrence.converts_iff database).mp converts
  have recordedRows := recorded_evaluate settings trigger session visitor database
  simp only [known, Matcher.newRows] at recordedRows
  rw [recordedRows]
  constructor
  · rintro ⟨recording, isRecorded, ofGoal⟩ key isKey ⟨other, member, otherGoal, otherKey⟩
    obtain ⟨row, isNew, rfl⟩ := List.mem_map.mp isRecorded
    obtain ⟨rowInPool, fills⟩ := Occurrence.newRows_fills isNew
    have rowKnown := ((Database.mem_pool_iff _ _ _ _).mp rowInPool).1
    have sameGoal : row.1 = goal := List.inj_on_of_nodup_map regular.idsDistinct rowKnown
      converts.known (fills.goalId.symm.trans ofGoal)
    have unique := Occurrence.keysUnique_newRows occurrence settings.scope
      (database.pool settings.scope occurrence.kind) regular.keysUnique
    have differ := (List.pairwise_append.mp unique).2.2 other member row.2
      (List.mem_map_of_mem isNew)
    subst sameGoal
    exact differ ⟨otherGoal.trans ofGoal.symm, key, otherKey,
      Except.ok.inj (fills.dedupeKey.symm.trans isKey)⟩
  · intro keyFree
    obtain ⟨draft, drafted⟩ := Option.isSome_iff_exists.mp isDrafted
    have fills := Occurrence.draft_fills drafted
    rcases Occurrence.newRows_covers inPool drafted database with ⟨other, member, shared⟩ | found
    · obtain ⟨sameGoal, key, draftKey, otherKey⟩ := shared
      have isKey := fills.dedupeKey.trans (congrArg Except.ok draftKey)
      exact absurd ⟨other, member, sameGoal.symm.trans fills.goalId, otherKey⟩ (keyFree key isKey)
    · obtain ⟨row, isNew, ofGoal, _⟩ := found
      exact ⟨_, List.mem_map_of_mem isNew, ofGoal.trans fills.goalId⟩

/-- A goal of the id was deleted when it had conversions. -/
def LeavesConversions (ids : IdDraw) (operations : List Operation) (goalId : Int) : Prop :=
  ∃ database, Deletes ids operations goalId database ∧ 0 < database.conversionCount goalId

/-- A goal of the id was deleted when it had a conversion with the key. -/
def LeavesKey (ids : IdDraw) (operations : List Operation) (goalId : Int) (key : String) : Prop :=
  ∃ database, Deletes ids operations goalId database ∧ database.HasKey goalId key

section

variable {ids : IdDraw} {operations : List Operation} {scope : Scope} {attributes : Entries} {goal : Goal}

theorem conversionCount_created_eq_zero_iff
    (noInsert : ∀ fields, Operation.insert fields ∉ operations)
    (created : (Goals.create scope attributes).result (run operations (.empty ids)) = .ok goal) :
    ((Goals.create scope attributes).after (run operations (.empty ids))).conversionCount goal.id = 0 ↔
      ¬LeavesConversions ids operations goal.id := by
  have inherited := mem_conversions_created_iff noInsert created
  unfold LeavesConversions Database.conversionCount
  simp only [List.countP_eq_zero, List.countP_pos_iff, beq_iff_eq]
  constructor
  · rintro none ⟨database, deletes, conversion, held, ofGoal⟩
    exact none conversion ((inherited conversion).mpr ⟨database, deletes, held, ofGoal⟩).1 ofGoal
  · intro leaves conversion member ofGoal
    obtain ⟨database, deletes, held, _⟩ := (inherited conversion).mp ⟨member, ofGoal⟩
    exact leaves ⟨database, deletes, conversion, held, ofGoal⟩

theorem hasKey_created_iff (noInsert : ∀ fields, Operation.insert fields ∉ operations)
    (created : (Goals.create scope attributes).result (run operations (.empty ids)) = .ok goal)
    (key : String) :
    ((Goals.create scope attributes).after (run operations (.empty ids))).HasKey goal.id key ↔
      LeavesKey ids operations goal.id key := by
  have inherited := mem_conversions_created_iff noInsert created
  constructor
  · rintro ⟨conversion, member, ofGoal, isKey⟩
    obtain ⟨database, deletes, held, _⟩ := (inherited conversion).mp ⟨member, ofGoal⟩
    exact ⟨database, deletes, conversion, held, ofGoal, isKey⟩
  · rintro ⟨database, deletes, conversion, held, ofGoal, isKey⟩
    exact ⟨conversion, ((inherited conversion).mpr ⟨database, deletes, held, ofGoal⟩).1, ofGoal,
      isKey⟩

end

theorem hasKey_run_iff {operations : List Operation}
    (noInsert : ∀ fields, Operation.insert fields ∉ operations) (database : Database)
    (goalId : Int) (key : String) :
    (run operations database).HasKey goalId key ↔
      database.HasKey goalId key ∨ ∃ recording ∈ recordings operations database,
        recording.conversion.goalId = goalId ∧ recording.conversion.dedupeKey = some key := by
  simp only [Database.HasKey, conversions_run noInsert, List.mem_append, List.mem_map,
    or_and_right, exists_or]
  apply or_congr_right
  constructor
  · rintro ⟨_, ⟨recording, isRecorded, rfl⟩, same⟩
    exact ⟨recording, isRecorded, same⟩
  · rintro ⟨recording, isRecorded, same⟩
    exact ⟨_, ⟨recording, isRecorded, rfl⟩, same⟩

/-- A new goal has no conversions exactly when no goal of its id was deleted when it had some. And
the first trigger after its creation that converts it under a key is recorded exactly when no goal
of its id was deleted when it had a conversion with that key. -/
theorem created_goal_inherits_iff {ids : IdDraw} {operations : List Operation}
    (noInsert : ∀ fields, Operation.insert fields ∉ operations) {scope : Scope}
    {attributes : Entries} {goal : Goal}
    (created : (Goals.create scope attributes).result (run operations (.empty ids)) = .ok goal) :
    let start := (Goals.create scope attributes).after (run operations (.empty ids))
    (start.conversionCount goal.id = 0 ↔ ¬LeavesConversions ids operations goal.id) ∧
      ((∀ count, (goal.id, count) ∉ start.conversionCounts) ↔
        ¬LeavesConversions ids operations goal.id) ∧
      ∀ later : List Operation, (∀ fields, Operation.insert fields ∉ later) →
        ∀ (settings : Matcher) (trigger : Trigger) (session visitor : Value)
          (occurrence : Occurrence) (current : Goal),
          Occurrence.of? trigger session visitor = some occurrence → current.id = goal.id →
          occurrence.Converts settings.scope (run later start) current →
          (∀ recording ∈ recordings later start, recording.conversion.goalId = goal.id →
            ∀ key, occurrence.key current = .ok (some key) →
              recording.conversion.dedupeKey ≠ some key) →
          ((∃ recording ∈ (Operation.evaluate settings trigger session visitor).recorded
                (run later start), recording.conversion.goalId = goal.id) ↔
            ∀ key, occurrence.key current = .ok (some key) → ¬LeavesKey ids operations goal.id key) := by
  intro start
  have noneCounted := conversionCount_created_eq_zero_iff noInsert created
  refine ⟨noneCounted, ?_, ?_⟩
  · rw [← noneCounted]
    simp only [Database.mem_conversionCounts_iff]
    constructor
    · intro uncounted
      by_contra some
      exact uncounted _ ⟨Nat.pos_of_ne_zero some, rfl⟩
    · rintro none count ⟨positive, isCount⟩
      exact absurd (isCount.trans none) (Nat.ne_of_gt positive)
  · intro later laterNoInsert settings trigger session visitor occurrence current known sameId
      converts isFirst
    have regularStart : start.Regular := regular_after (.service scope (.create attributes))
      (regular_run operations (Database.regular_empty ids))
    have regular : (run later start).Regular := regular_run later regularStart
    rw [← sameId, records_iff regular known converts]
    apply forall_congr'
    intro key
    apply imp_congr_right
    intro isKey
    apply not_congr
    rw [hasKey_run_iff laterNoInsert, sameId, hasKey_created_iff noInsert created]
    constructor
    · rintro (inherited | ⟨recording, isRecorded, ofGoal, taken⟩)
      · exact inherited
      · exact absurd taken (isFirst recording isRecorded ofGoal key isKey)
    · exact Or.inl

def signupAttributes : Entries :=
  [(.text "name", .text "Signup"), (.text "type", .text "event"),
    (.text "conditions", .map [(.text "event_name", .text "signup")])]

def evaluateSignup : Operation :=
  .evaluate ⟨.everything, .made, []⟩ (Matcher.signupVisit []).trigger (.text "s") .null

def signupDeleted : List Operation :=
  [.service .everything (.create signupAttributes), evaluateSignup,
    .service .everything (.delete (.byId 1))]

theorem recreated_signup_inherits :
    ∃ goal, (Goals.create .everything signupAttributes).result (run signupDeleted .empty) =
        .ok goal ∧ LeavesConversions .lowest signupDeleted goal.id := by
  have noInsert : ∀ fields, Operation.insert fields ∉ signupDeleted := by
    simp [signupDeleted, evaluateSignup]
  cases created : (Goals.create .everything signupAttributes).result (run signupDeleted .empty) with
  | error fault =>
      have succeeds : ((Goals.create .everything signupAttributes).result
          (run signupDeleted .empty)).toOption.isSome = true := by decide +kernel
      simp [created, Except.toOption] at succeeds
  | ok goal =>
      refine ⟨goal, rfl, ?_⟩
      have isFirst : ((Goals.create .everything signupAttributes).result
          (run signupDeleted .empty)).toOption.map (·.id) = some 1 := by decide +kernel
      simp only [created, Except.toOption, Option.map_some, Option.some.injEq] at isFirst
      have counted : ((Goals.create .everything signupAttributes).after
          (run signupDeleted .empty)).conversionCount 1 = 1 := by decide +kernel
      by_contra untouched
      have none := (created_goal_inherits_iff noInsert created).1.mpr untouched
      rw [isFirst, counted] at none
      exact absurd none (by decide)

/-- The deleted goal's conversion counts as the new goal's, and the session that it belongs to does
not convert the new goal, which converts when no goal was there before. -/
theorem recreated_signup_not_recorded :
    let start := (Goals.create .everything signupAttributes).after (run signupDeleted .empty)
    let fresh := (Goals.create .everything signupAttributes).after .empty
    start.goalIds = [1] ∧ start.conversionCount 1 = 1 ∧ evaluateSignup.recorded start = [] ∧
      (evaluateSignup.recorded fresh).map (·.conversion.dedupeKey) = [some "session:s"] := by
  refine ⟨by decide +kernel, by decide +kernel, ?_, by decide +kernel⟩
  apply List.eq_nil_of_length_eq_zero
  decide +kernel

end Operation

end ConversionTracking
