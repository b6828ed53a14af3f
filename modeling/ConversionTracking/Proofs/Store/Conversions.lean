import ConversionTracking.Proofs.Store.Database
import ConversionTracking.Store.Conversions

/-!
The table of conversions: which rows it takes, the ids that it gives them, and the rule that no two
conversions of a goal have the same key.
-/

namespace ConversionTracking

namespace Conversion

/-- Two conversions are of one goal and have the same key. Conversions without a key share none. -/
def SharesKey (first second : Conversion) : Prop :=
  first.goalId = second.goalId ∧
    ∃ key, first.dedupeKey = some key ∧ second.dedupeKey = some key

theorem conflicts_iff (left right : Conversion) :
    left.conflicts right = true ↔ left.SharesKey right := by
  cases leftKey : left.dedupeKey with
  | none => simp [conflicts, SharesKey, leftKey]
  | some key =>
      simp only [conflicts, SharesKey, leftKey, Option.isSome_some, Bool.and_true, Bool.and_eq_true,
        beq_iff_eq, Option.some.injEq]
      constructor
      · rintro ⟨goal, same⟩
        exact ⟨goal, key, rfl, same.symm⟩
      · rintro ⟨goal, shared, sameLeft, sameRight⟩
        subst sameLeft
        exact ⟨goal, sameRight.symm⟩

end Conversion

namespace ConversionFields

structure Makes (fields : ConversionFields) (nextId : Int) (row : Conversion) : Prop where
  value : Column.number fields.value = .ok row.value
  metadata : Column.document fields.metadata = .ok row.metadata
  createdAt : Column.moment fields.createdAt = .ok ()
  goalId : Column.whole fields.goalId = .ok (some row.goalId)
  siteId : Column.whole fields.siteId = .ok row.siteId
  tenantId : Column.text fields.tenantId = .ok row.tenantId
  sessionId : Column.text fields.sessionId = .ok row.sessionId
  visitorId : Column.text fields.visitorId = .ok row.visitorId
  eventId : Column.text fields.eventId = .ok row.eventId
  pageViewId : Column.text fields.pageViewId = .ok row.pageViewId
  dedupeKey : Column.text fields.dedupeKey = .ok row.dedupeKey
  id : (Column.rowId fields.id).map (·.getD nextId) = .ok row.id

theorem toRow_eq_ok_iff (fields : ConversionFields) (nextId : Int) (row : Conversion) :
    fields.toRow nextId = .ok row ↔ fields.Makes nextId row := by
  constructor
  · intro made
    simp only [toRow, Except.bind_eq_ok_iff] at made
    obtain ⟨value, valueRead, metadata, metadataRead, _, createdAt, goalId, goalRead, siteId,
      siteRead, tenantId, tenantRead, sessionId, sessionRead, visitorId, visitorRead, eventId,
      eventRead, pageViewId, pageViewRead, dedupeKey, keyRead, id, idRead, filled, goalFilled,
      same⟩ := made
    cases goalId with
    | none => simp [Column.filled] at goalFilled
    | some goal =>
        simp only [Column.filled, Except.ok.injEq] at goalFilled
        simp only [pure, Except.pure, Except.ok.injEq] at same
        subst goalFilled same
        exact {
          value := valueRead
          metadata := metadataRead
          createdAt := createdAt
          goalId := goalRead
          siteId := siteRead
          tenantId := tenantRead
          sessionId := sessionRead
          visitorId := visitorRead
          eventId := eventRead
          pageViewId := pageViewRead
          dedupeKey := keyRead
          id := by rw [idRead]; rfl }
  · intro made
    obtain ⟨id, idRead⟩ : ∃ id, Column.rowId fields.id = .ok id := by
      cases read : Column.rowId fields.id with
      | error fault => simpa [read, Except.map] using made.id
      | ok id => exact ⟨id, rfl⟩
    have sameId : id.getD nextId = row.id := by
      simpa [idRead, Except.map] using made.id
    simp only [toRow, made.value, made.metadata, made.createdAt, made.goalId, made.siteId,
      made.tenantId, made.sessionId, made.visitorId, made.eventId, made.pageViewId, made.dedupeKey,
      idRead, Column.filled, sameId, bind, Except.bind, pure, Except.pure]

theorem Makes.withId {fields : ConversionFields} {nextId : Int} {row : Conversion}
    (made : fields.Makes nextId row) (noId : fields.id = .null) (other : Int) :
    fields.Makes other { row with id := other } := {
  made with
  id := by rw [noId]; rfl }

theorem Makes.unique {fields : ConversionFields} {nextId : Int} {first second : Conversion}
    (madeFirst : fields.Makes nextId first) (madeSecond : fields.Makes nextId second) :
    first = second := by
  have same := ((toRow_eq_ok_iff fields nextId first).mpr madeFirst).symm.trans
    ((toRow_eq_ok_iff fields nextId second).mpr madeSecond)
  exact Except.ok.inj same

end ConversionFields

namespace Database

def withConversions (database : Database) (added : List Conversion) : Database :=
  { database with conversions := database.conversions ++ added }

@[simp] theorem withConversions_conversions (database : Database) (added : List Conversion) :
    (database.withConversions added).conversions = database.conversions ++ added := rfl

@[simp] theorem withConversions_nil (database : Database) :
    database.withConversions [] = database := by
  simp [withConversions]

theorem withConversions_append (database : Database) (first second : List Conversion) :
    (database.withConversions first).withConversions second =
      database.withConversions (first ++ second) := by
  simp [withConversions]

def KeysUnique (database : Database) : Prop :=
  database.conversions.Pairwise fun first second => ¬first.SharesKey second

theorem keysUnique_empty (ids : IdDraw) : (Database.empty ids).KeysUnique := List.Pairwise.nil

theorem KeysUnique.withRow {database : Database} {row : Conversion} (unique : database.KeysUnique)
    (keyFree : ∀ other ∈ database.conversions, ¬row.SharesKey other) :
    (database.withConversions [row]).KeysUnique := by
  refine List.pairwise_append.mpr ⟨unique, List.pairwise_singleton _ row, ?_⟩
  intro other member last isRow
  obtain rfl := List.mem_singleton.mp isRow
  rintro ⟨sameGoal, key, otherKey, rowKey⟩
  exact keyFree other member ⟨sameGoal.symm, key, rowKey, otherKey⟩

def HasKey (database : Database) (goalId : Int) (key : String) : Prop :=
  ∃ conversion ∈ database.conversions,
    conversion.goalId = goalId ∧ conversion.dedupeKey = some key

def unkeyedCount (database : Database) (goalId : Int) : Nat :=
  database.conversions.countP fun conversion =>
    conversion.goalId == goalId && conversion.dedupeKey.isNone

theorem hasKey_withConversions (database : Database) (added : List Conversion) (goalId : Int)
    (key : String) :
    (database.withConversions added).HasKey goalId key ↔
      database.HasKey goalId key ∨
        ∃ conversion ∈ added, conversion.goalId = goalId ∧ conversion.dedupeKey = some key := by
  simp only [HasKey, withConversions_conversions, List.mem_append, or_and_right, exists_or]

theorem mem_conversionCounts_iff (database : Database) (goalId : Int) (count : Nat) :
    (goalId, count) ∈ database.conversionCounts ↔
      0 < count ∧ count = database.conversionCount goalId := by
  have counted : goalId ∈ database.conversions.map (·.goalId) ↔
      0 < database.conversionCount goalId := by
    simp [conversionCount, List.countP_pos_iff]
  simp only [conversionCounts, List.mem_map, List.mem_mergeSort, List.mem_eraseDups, Prod.mk.injEq]
  constructor
  · rintro ⟨_, member, rfl, rfl⟩
    exact ⟨counted.mp (List.mem_map.mpr member), rfl⟩
  · rintro ⟨positive, rfl⟩
    exact ⟨goalId, List.mem_map.mp (counted.mpr positive), rfl, rfl⟩

theorem unkeyedCount_withConversions (database : Database) (added : List Conversion)
    (goalId : Int) :
    (database.withConversions added).unkeyedCount goalId =
      database.unkeyedCount goalId + added.countP fun conversion =>
        conversion.goalId == goalId && conversion.dedupeKey.isNone := by
  simp only [unkeyedCount, withConversions_conversions, List.countP_append]

/-- The table of conversions takes a row: it can be made, and it breaks neither of the table's
rules. -/
structure Takes (database : Database) (fields : ConversionFields) (row : Conversion) : Prop where
  makes : fields.Makes (database.nextId (database.conversions.map (·.id))) row
  fresh : ∀ other ∈ database.conversions, other.id ≠ row.id
  keyFree : ∀ other ∈ database.conversions, ¬row.SharesKey other

theorem insertConversion_of_takes {database : Database} {fields : ConversionFields}
    {row : Conversion} (takes : database.Takes fields row) :
    database.insertConversion fields = .ok (.stored row, database.withConversions [row]) := by
  have made := (fields.toRow_eq_ok_iff _ row).mpr takes.makes
  have freshId : database.conversions.any (·.id == row.id) = false := by
    rw [List.any_eq_false]
    intro other member
    simpa using takes.fresh other member
  have noConflict : database.conversions.any row.conflicts = false := by
    rw [List.any_eq_false]
    intro other member
    rw [Conversion.conflicts_iff]
    exact takes.keyFree other member
  simp only [insertConversion, made, freshId, noConflict, Bool.false_eq_true, ↓reduceIte]
  rfl

theorem insertConversion_cases {database changed : Database} {fields : ConversionFields}
    {insertion : Insertion}
    (inserted : database.insertConversion fields = .ok (insertion, changed)) :
    (∃ row, insertion = .stored row ∧ database.Takes fields row ∧
        changed = database.withConversions [row]) ∨
      ((∀ row, insertion ≠ .stored row) ∧ changed = database) := by
  unfold insertConversion at inserted
  split at inserted
  · cases inserted
    exact Or.inr ⟨by simp, rfl⟩
  · simp at inserted
  · rename_i row made
    split at inserted
    · cases inserted
      exact Or.inr ⟨by simp, rfl⟩
    · rename_i freshId
      split at inserted
      · cases inserted
        exact Or.inr ⟨by simp, rfl⟩
      · rename_i noConflict
        cases inserted
        refine Or.inl ⟨row, rfl, ⟨(fields.toRow_eq_ok_iff _ row).mp made, ?_, ?_⟩, rfl⟩
        · intro other member same
          exact freshId (List.any_eq_true.mpr ⟨other, member, by simpa using same⟩)
        · intro other member shared
          exact noConflict (List.any_eq_true.mpr
            ⟨other, member, (row.conflicts_iff other).mpr shared⟩)

end Database

namespace Conversions

def stored? : Except Fault (Option Conversion) → Option Conversion
  | .ok row? => row?
  | .error _ => none

theorem stored?_eq_some_iff (result : Except Fault (Option Conversion)) (row : Conversion) :
    stored? result = some row ↔ result = .ok (some row) := by
  cases result <;> simp [stored?]

theorem result_insert_iff (fields : ConversionFields) (database : Database) (row : Conversion) :
    (insert fields).result database = .ok (some row) ↔ database.Takes fields row := by
  unfold insert
  rw [Work.result_bind, Work.result_change]
  constructor
  · intro returned
    cases inserted : database.insertConversion fields with
    | error fault => simp [inserted, Except.map] at returned
    | ok pair =>
        obtain ⟨insertion, changed⟩ := pair
        simp only [inserted, Except.map] at returned
        rcases Database.insertConversion_cases inserted with
          ⟨stored, same, takes, _⟩ | ⟨notStored, _⟩
        · subst same
          simp only [Work.result_pure, Except.ok.injEq, Option.some.injEq] at returned
          exact returned ▸ takes
        · cases insertion with
          | stored other => exact absurd rfl (notStored other)
          | rejected rule =>
              dsimp only at returned
              split at returned <;> simp [Work.result_bind] at returned
  · intro takes
    rw [Database.insertConversion_of_takes takes]
    rfl

theorem after_insert (fields : ConversionFields) (database : Database) :
    (insert fields).after database =
      database.withConversions (stored? ((insert fields).result database)).toList := by
  by_cases taken : ∃ row, database.Takes fields row
  · obtain ⟨row, takes⟩ := taken
    rw [(result_insert_iff fields database row).mpr takes]
    unfold insert
    rw [Work.after_bind, Work.result_change, Work.after_change,
      Database.insertConversion_of_takes takes]
    rfl
  · have nothing : stored? ((insert fields).result database) = none := by
      rw [Option.eq_none_iff_forall_not_mem]
      intro row stored
      have returned := (stored?_eq_some_iff _ row).mp stored
      exact taken ⟨row, (result_insert_iff fields database row).mp returned⟩
    rw [nothing, Option.toList_none, Database.withConversions_nil]
    unfold insert
    rw [Work.after_bind, Work.result_change, Work.after_change]
    cases inserted : database.insertConversion fields with
    | error fault => rfl
    | ok pair =>
        obtain ⟨insertion, changed⟩ := pair
        rcases Database.insertConversion_cases inserted with
          ⟨stored, _, takes, _⟩ | ⟨notStored, same⟩
        · exact absurd ⟨stored, takes⟩ taken
        · subst same
          cases insertion with
          | stored other => exact absurd rfl (notStored other)
          | rejected rule =>
              simp only [Except.map]
              split <;> simp [Work.after_bind]

theorem keysUnique_insert {database : Database} (fields : ConversionFields)
    (unique : database.KeysUnique) : ((insert fields).after database).KeysUnique := by
  rw [after_insert]
  cases stored : stored? ((insert fields).result database) with
  | none =>
      rw [Option.toList_none, Database.withConversions_nil]
      exact unique
  | some row =>
      have takes := (result_insert_iff fields database row).mp
        ((stored?_eq_some_iff _ row).mp stored)
      exact unique.withRow takes.keyFree

end Conversions

end ConversionTracking
