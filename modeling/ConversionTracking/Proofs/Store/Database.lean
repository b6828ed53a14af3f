import ConversionTracking.Store.Database

/-!
The ids that rows are given; outcomes by their results, and units of work by what they return and by
the database that they leave behind.
-/

namespace ConversionTracking

namespace Database

def LeavesId (ids : List Int) : Prop := ∀ id ∈ ids, id < lastId

theorem nextId_cases (database : Database) (ids : List Int) :
    (∃ last ∈ 0 :: ids, (∀ id ∈ ids, id ≤ last) ∧ database.nextId ids = last + 1) ∨
      ¬LeavesId ids ∧ database.nextId ids = database.ids.draw ids := by
  cases ids with
  | nil => exact Or.inl ⟨0, List.mem_cons_self, List.forall_mem_nil _, rfl⟩
  | cons first rest =>
      have highest : (first :: rest).max? = some (rest.foldl max first) := List.max?_cons'
      obtain ⟨member, bound⟩ := List.max?_eq_some_iff.mp highest
      rw [nextId]
      split
      · exact Or.inl ⟨_, List.mem_cons_of_mem 0 member, bound, rfl⟩
      · rename_i noneLeft
        exact Or.inr ⟨fun leaves => noneLeft (leaves _ member), rfl⟩

theorem nextId_of_leaves (database : Database) {ids : List Int} (leaves : LeavesId ids) :
    ∃ last ∈ 0 :: ids, (∀ id ∈ ids, id ≤ last) ∧ database.nextId ids = last + 1 :=
  (database.nextId_cases ids).resolve_right fun drawn => drawn.1 leaves

theorem nextId_notMem (database : Database) (ids : List Int) : database.nextId ids ∉ ids := by
  intro member
  rcases database.nextId_cases ids with ⟨last, _, bound, next⟩ | ⟨_, drawn⟩
  · have above := bound _ member
    omega
  · exact database.ids.free ids (drawn ▸ member)

end Database

theorem Except.bind_eq_ok_iff {ε α β : Type} {first : Except ε α} {next : α → Except ε β}
    {value : β} :
    (first >>= next) = .ok value ↔ ∃ middle, first = .ok middle ∧ next middle = .ok value := by
  cases first with
  | error fault => simp [bind, Except.bind]
  | ok middle => simp [bind, Except.bind]

theorem Except.map_eq_ok_iff {ε α β : Type} {change : α → β} {result : Except ε α} {value : β} :
    result.map change = .ok value ↔ ∃ original, result = .ok original ∧ change original = value := by
  cases result <;> simp [Except.map]

theorem Except.mapError_eq_ok_iff {ε ε' α : Type} {change : ε → ε'} {result : Except ε α}
    {value : α} : result.mapError change = .ok value ↔ result = .ok value := by
  cases result with
  | error fault => exact iff_of_false nofun nofun
  | ok result =>
      change Except.ok result = .ok value ↔ _
      rw [Except.ok.injEq, Except.ok.injEq]

namespace Outcome

variable {α β : Type}

@[simp] theorem result_pure (value : α) : (pure value : Outcome α).result = .ok value := rfl

@[simp] theorem result_ofExcept (value : Except Fault α) : (ofExcept value).result = value := rfl

@[simp] theorem result_note (notice : Notice) : (note notice).result = .ok () := rfl

theorem result_bind (first : Outcome α) (next : α → Outcome β) :
    (first >>= next).result =
      match first.result with
      | .ok value => (next value).result
      | .error fault => .error fault := by
  change (Outcome.bind first next).result = _
  unfold Outcome.bind
  cases first.result <;> rfl

@[simp] theorem result_fail (fault : Fault) : (fail fault : Outcome α).result = .error fault := rfl

theorem bind_eq_ok_iff (first : Outcome α) (next : α → Outcome β) (value : β) :
    (first >>= next).result = .ok value ↔
      ∃ middle, first.result = .ok middle ∧ (next middle).result = .ok value := by
  rw [result_bind]
  cases first.result <;> simp

theorem result_recover (attempt : Outcome α) (handle : Fault → Outcome α) :
    (attempt.recover handle).result =
      match attempt.result with
      | .ok value => .ok value
      | .error fault => (handle fault).result := by
  unfold recover
  cases attempt.result <;> rfl

end Outcome

namespace Work

variable {α β γ : Type}

/-- What a unit of work returns when it starts from a database. -/
def result (work : Work α) (database : Database) : Except Fault α := (work database).1.result

/-- The database that a unit of work leaves behind, also when it fails. -/
def after (work : Work α) (database : Database) : Database := (work database).2

@[simp] theorem result_pure (value : α) (database : Database) :
    (pure value : Work α).result database = .ok value := rfl

@[simp] theorem after_pure (value : α) (database : Database) :
    (pure value : Work α).after database = database := rfl

theorem result_bind (first : Work α) (next : α → Work β) (database : Database) :
    (first >>= next).result database =
      match first.result database with
      | .ok value => (next value).result (first.after database)
      | .error fault => .error fault := by
  change (Work.bind first next database).1.result = _
  simp only [Work.bind, result, after]
  cases (first database).1.result <;> rfl

theorem after_bind (first : Work α) (next : α → Work β) (database : Database) :
    (first >>= next).after database =
      match first.result database with
      | .ok value => (next value).after (first.after database)
      | .error _ => first.after database := by
  change (Work.bind first next database).2 = _
  simp only [Work.bind, result, after]
  cases (first database).1.result <;> rfl

@[simp] theorem result_ofOutcome (outcome : Outcome α) (database : Database) :
    (ofOutcome outcome).result database = outcome.result := rfl

@[simp] theorem after_ofOutcome (outcome : Outcome α) (database : Database) :
    (ofOutcome outcome).after database = database := rfl

@[simp] theorem result_ofExcept (value : Except Fault α) (database : Database) :
    (ofExcept value).result database = value := rfl

@[simp] theorem after_ofExcept (value : Except Fault α) (database : Database) :
    (ofExcept value).after database = database := rfl

@[simp] theorem result_read (query : Database → Except Fault α) (database : Database) :
    (read query).result database = query database := rfl

@[simp] theorem after_read (query : Database → Except Fault α) (database : Database) :
    (read query).after database = database := rfl

@[simp] theorem result_note (notice : Notice) (database : Database) :
    (note notice).result database = .ok () := rfl

@[simp] theorem after_note (notice : Notice) (database : Database) :
    (note notice).after database = database := rfl

theorem result_change (update : Database → Except Fault (α × Database)) (database : Database) :
    (change update).result database = (update database).map Prod.fst := by
  simp only [change, result]
  cases update database <;> rfl

theorem after_change (update : Database → Except Fault (α × Database)) (database : Database) :
    (change update).after database =
      match update database with
      | .ok (_, changed) => changed
      | .error _ => database := by
  simp only [change, after]
  cases update database <;> rfl

theorem result_recover (attempt : Work α) (handle : Fault → Work α) (database : Database) :
    (attempt.recover handle).result database =
      match attempt.result database with
      | .ok value => .ok value
      | .error fault => (handle fault).result (attempt.after database) := by
  simp only [recover, result, after]
  cases (attempt database).1.result <;> rfl

theorem after_recover (attempt : Work α) (handle : Fault → Work α) (database : Database) :
    (attempt.recover handle).after database =
      match attempt.result database with
      | .ok _ => attempt.after database
      | .error fault => (handle fault).after (attempt.after database) := by
  simp only [recover, result, after]
  cases (attempt database).1.result <;> rfl

end Work

end ConversionTracking
