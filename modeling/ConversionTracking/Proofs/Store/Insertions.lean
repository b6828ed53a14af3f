import ConversionTracking.Proofs.Store.Conversions
import ConversionTracking.Proofs.Value.Entries

/-!
What comes of a row that is given to the table of conversions. It is stored under an unused id, or it
breaks one of the table's rules, or it cannot be given to the database at all; in the last two cases
the table stays as it is. The rule that no two conversions of a goal have the same key is told from
the others by the message of the database.
-/

namespace ConversionTracking

theorem Except.bind_eq_error_iff {ε α β : Type} {first : Except ε α} {next : α → Except ε β}
    {fault : ε} :
    (first >>= next) = .error fault ↔
      first = .error fault ∨ ∃ middle, first = .ok middle ∧ next middle = .error fault := by
  cases first with
  | error other => simp [bind, Except.bind]
  | ok middle => simp [bind, Except.bind]

namespace Column

variable (value : Value)

theorem checkWord_ne_rejected (word : Int) : checkWord word ≠ .error .rowRejected := by
  unfold checkWord
  split <;> simp

theorem number_ne_rejected : number value ≠ .error .rowRejected := by
  unfold number
  split
  · simp
  · split <;> simp

theorem document_ne_rejected : document value ≠ .error .rowRejected := by
  unfold document
  split <;> simp

theorem moment_ne_rejected : moment value ≠ .error .rowRejected := by
  unfold moment
  split <;> simp

theorem whole_ne_rejected : whole value ≠ .error .rowRejected := by
  unfold whole
  split
  case h_3 word => simp [Except.bind_eq_error_iff, checkWord_ne_rejected, pure, Except.pure]
  case h_5 | h_6 => split <;> simp
  all_goals simp

theorem text_ne_rejected : text value ≠ .error .rowRejected := by
  unfold text
  split
  case h_4 word => simp [Except.bind_eq_error_iff, checkWord_ne_rejected, pure, Except.pure]
  all_goals simp

theorem filled_eq_rejected_iff {α : Type} (held : Option α) :
    filled held = .error .rowRejected ↔ held = none := by
  cases held <;> simp [filled]

end Column

namespace ConversionFields

structure IsWritten (fields : ConversionFields) : Prop where
  value : ∃ held, Column.number fields.value = .ok held
  metadata : ∃ held, Column.document fields.metadata = .ok held
  createdAt : Column.moment fields.createdAt = .ok ()
  goalId : ∃ held, Column.whole fields.goalId = .ok held
  siteId : ∃ held, Column.whole fields.siteId = .ok held
  tenantId : ∃ held, Column.text fields.tenantId = .ok held
  sessionId : ∃ held, Column.text fields.sessionId = .ok held
  visitorId : ∃ held, Column.text fields.visitorId = .ok held
  eventId : ∃ held, Column.text fields.eventId = .ok held
  pageViewId : ∃ held, Column.text fields.pageViewId = .ok held
  dedupeKey : ∃ held, Column.text fields.dedupeKey = .ok held

theorem toRow_eq_rejected_iff (fields : ConversionFields) (nextId : Int) :
    fields.toRow nextId = .error .rowRejected ↔ fields.IsWritten ∧
      (Column.rowId fields.id = .error .rowRejected ∨
        (∃ id, Column.rowId fields.id = .ok id) ∧ Column.whole fields.goalId = .ok none) := by
  simp only [toRow, Except.bind_eq_error_iff, Column.number_ne_rejected,
    Column.document_ne_rejected, Column.moment_ne_rejected, Column.whole_ne_rejected,
    Column.text_ne_rejected, Column.filled_eq_rejected_iff, pure, Except.pure, reduceCtorEq,
    and_false, exists_false, or_false, false_or]
  constructor
  · rintro ⟨value, valueRead, metadata, metadataRead, _, createdAt, goalId, goalRead, siteId,
      siteRead, tenantId, tenantRead, sessionId, sessionRead, visitorId, visitorRead, eventId,
      eventRead, pageViewId, pageViewRead, dedupeKey, keyRead, broken⟩
    refine ⟨⟨⟨_, valueRead⟩, ⟨_, metadataRead⟩, createdAt, ⟨_, goalRead⟩, ⟨_, siteRead⟩,
      ⟨_, tenantRead⟩, ⟨_, sessionRead⟩, ⟨_, visitorRead⟩, ⟨_, eventRead⟩, ⟨_, pageViewRead⟩,
      ⟨_, keyRead⟩⟩, ?_⟩
    rcases broken with noId | ⟨id, idRead, noGoal⟩
    · exact Or.inl noId
    · exact Or.inr ⟨⟨id, idRead⟩, noGoal ▸ goalRead⟩
  · rintro ⟨written, broken⟩
    obtain ⟨value, valueRead⟩ := written.value
    obtain ⟨metadata, metadataRead⟩ := written.metadata
    obtain ⟨goalId, goalRead⟩ := written.goalId
    obtain ⟨siteId, siteRead⟩ := written.siteId
    obtain ⟨tenantId, tenantRead⟩ := written.tenantId
    obtain ⟨sessionId, sessionRead⟩ := written.sessionId
    obtain ⟨visitorId, visitorRead⟩ := written.visitorId
    obtain ⟨eventId, eventRead⟩ := written.eventId
    obtain ⟨pageViewId, pageViewRead⟩ := written.pageViewId
    obtain ⟨dedupeKey, keyRead⟩ := written.dedupeKey
    refine ⟨value, valueRead, metadata, metadataRead, (), written.createdAt, goalId, goalRead,
      siteId, siteRead, tenantId, tenantRead, sessionId, sessionRead, visitorId, visitorRead,
      eventId, eventRead, pageViewId, pageViewRead, dedupeKey, keyRead, ?_⟩
    rcases broken with noId | ⟨⟨id, idRead⟩, noGoal⟩
    · exact Or.inl noId
    · exact Or.inr ⟨id, idRead, Except.ok.inj (goalRead.symm.trans noGoal)⟩

end ConversionFields

namespace Database

/-- The row that is given to the table breaks one of its rules, and none that is looked at before. -/
def Breaks (database : Database) (fields : ConversionFields) : ConversionRule → Prop
  | .idWhole => fields.IsWritten ∧ Column.rowId fields.id = .error .rowRejected
  | .goalGiven =>
      fields.IsWritten ∧ (∃ id, Column.rowId fields.id = .ok id) ∧
        Column.whole fields.goalId = .ok none
  | .idUnused =>
      ∃ row, fields.Makes (database.nextId (database.conversions.map (·.id))) row ∧
        ∃ other ∈ database.conversions, other.id = row.id
  | .keyUnused =>
      ∃ row, fields.Makes (database.nextId (database.conversions.map (·.id))) row ∧
        (∀ other ∈ database.conversions, other.id ≠ row.id) ∧
        ∃ other ∈ database.conversions, row.SharesKey other

variable {database : Database} {fields : ConversionFields} {rule : ConversionRule}

theorem insertConversion_of_breaks (broken : database.Breaks fields rule) :
    database.insertConversion fields = .ok (.rejected rule, database) := by
  cases rule with
  | idWhole =>
      obtain ⟨written, noId⟩ := broken
      have rejected := (fields.toRow_eq_rejected_iff
        (database.nextId (database.conversions.map (·.id)))).mpr ⟨written, Or.inl noId⟩
      simp only [insertConversion, rejected, ConversionFields.brokenRule, noId]
  | goalGiven =>
      obtain ⟨written, ⟨id, idRead⟩, noGoal⟩ := broken
      have rejected := (fields.toRow_eq_rejected_iff
        (database.nextId (database.conversions.map (·.id)))).mpr ⟨written, Or.inr ⟨⟨id, idRead⟩, noGoal⟩⟩
      simp only [insertConversion, rejected, ConversionFields.brokenRule, idRead]
  | idUnused =>
      obtain ⟨row, makes, other, isStored, sameId⟩ := broken
      have isUsed : database.conversions.any (·.id == row.id) = true :=
        List.any_eq_true.mpr ⟨other, isStored, by simpa using sameId⟩
      simp only [insertConversion, (fields.toRow_eq_ok_iff _ row).mpr makes, isUsed, ↓reduceIte]
  | keyUnused =>
      obtain ⟨row, makes, fresh, other, isStored, shares⟩ := broken
      have isFresh : database.conversions.any (·.id == row.id) = false := by
        rw [List.any_eq_false]
        intro stored member
        simpa using fresh stored member
      have conflicts : database.conversions.any row.conflicts = true :=
        List.any_eq_true.mpr ⟨other, isStored, (row.conflicts_iff other).mpr shares⟩
      simp only [insertConversion, (fields.toRow_eq_ok_iff _ row).mpr makes, isFresh, conflicts,
        Bool.false_eq_true, ↓reduceIte]

theorem takes_or_breaks (database : Database) {row : Conversion}
    (makes : fields.Makes (database.nextId (database.conversions.map (·.id))) row) :
    database.Takes fields row ∨ database.Breaks fields .idUnused ∨
      database.Breaks fields .keyUnused := by
  by_cases used : ∃ other ∈ database.conversions, other.id = row.id
  · exact Or.inr (Or.inl ⟨row, makes, used⟩)
  · have fresh : ∀ other ∈ database.conversions, other.id ≠ row.id :=
      fun other isStored same => used ⟨other, isStored, same⟩
    by_cases shared : ∃ other ∈ database.conversions, row.SharesKey other
    · exact Or.inr (Or.inr ⟨row, makes, fresh, shared⟩)
    · exact Or.inl ⟨makes, fresh, fun other isStored shares => shared ⟨other, isStored, shares⟩⟩

theorem insertConversion_settles (database : Database) (fields : ConversionFields) :
    (∃ row, database.Takes fields row) ∨ (∃ rule, database.Breaks fields rule) ∨
      ∃ fault, fault ≠ .rowRejected ∧ database.insertConversion fields = .error fault := by
  cases made : fields.toRow (database.nextId (database.conversions.map (·.id))) with
  | ok row =>
      rcases database.takes_or_breaks ((fields.toRow_eq_ok_iff _ row).mp made) with
        takes | idUsed | keyUsed
      · exact Or.inl ⟨row, takes⟩
      · exact Or.inr (Or.inl ⟨_, idUsed⟩)
      · exact Or.inr (Or.inl ⟨_, keyUsed⟩)
  | error fault =>
      by_cases isRejected : fault = .rowRejected
      · subst isRejected
        obtain ⟨written, noId | ⟨hasId, noGoal⟩⟩ := (fields.toRow_eq_rejected_iff _).mp made
        · exact Or.inr (Or.inl ⟨.idWhole, written, noId⟩)
        · exact Or.inr (Or.inl ⟨.goalGiven, written, hasId, noGoal⟩)
      · refine Or.inr (Or.inr ⟨fault, isRejected, ?_⟩)
        unfold insertConversion
        rw [made]
        cases fault with
        | rowRejected => exact absurd rfl isRejected
        | _ => rfl

theorem not_breaks_keyUnused (noKey : Column.text fields.dedupeKey = .ok none) :
    ¬database.Breaks fields .keyUnused := by
  rintro ⟨row, makes, _, other, _, _, key, rowKey, _⟩
  have columnKey := makes.dedupeKey
  rw [noKey, rowKey] at columnKey
  simp at columnKey

end Database

namespace Conversions

theorem isKeyConflict_message_iff (rule : ConversionRule) :
    isKeyConflict rule.message = true ↔ rule = .keyUnused := by
  cases rule <;> decide

/-- The notices of a row that breaks a rule: there is none when its key is in use. -/
def noticesOf (rule : ConversionRule) : List Notice :=
  if rule = .keyUnused then [] else [.rowRefused]

theorem rowRefused_mem_noticesOf (rule : ConversionRule) :
    .rowRefused ∈ noticesOf rule ↔ rule ≠ .keyUnused := by
  cases rule <;> decide

variable {database : Database} {fields : ConversionFields}

theorem insert_of_takes {row : Conversion} (takes : database.Takes fields row) :
    insert fields database = (⟨.ok (some row), []⟩, database.withConversions [row]) := by
  change Work.bind (Work.change (·.insertConversion fields)) _ database = _
  simp only [Work.bind, Work.change, Database.insertConversion_of_takes takes]
  rfl

theorem insert_of_breaks {rule : ConversionRule} (broken : database.Breaks fields rule) :
    insert fields database = (⟨.ok none, noticesOf rule⟩, database) := by
  change Work.bind (Work.change (·.insertConversion fields)) _ database = _
  simp only [Work.bind, Work.change, Database.insertConversion_of_breaks broken,
    Outcome.result_pure]
  by_cases isKey : rule = .keyUnused
  · simp only [(isKeyConflict_message_iff rule).mpr isKey, ↓reduceIte, noticesOf, if_pos isKey]
    rfl
  · have isOther := mt (isKeyConflict_message_iff rule).mp isKey
    simp only [if_neg isOther, noticesOf, if_neg isKey]
    rfl

theorem insert_of_error {fault : Fault}
    (failed : database.insertConversion fields = .error fault) :
    insert fields database = (⟨.error fault, []⟩, database) := by
  change Work.bind (Work.change (·.insertConversion fields)) _ database = _
  simp only [Work.bind, Work.change, failed]
  rfl

theorem insertGiven_of_fields {given : Entries}
    (named : ConversionFields.ofEntries given = .ok fields) :
    insertGiven given database = insert fields database := by
  change Work.bind (Work.ofExcept (ConversionFields.ofEntries given)) insert database = _
  rw [named]
  rfl

theorem insertGiven_of_unknown {given : Entries} {fault : Fault}
    (unknown : ConversionFields.ofEntries given = .error fault) :
    insertGiven given database = (⟨.error fault, []⟩, database) := by
  change Work.bind (Work.ofExcept (ConversionFields.ofEntries given)) insert database = _
  rw [unknown]
  rfl

theorem fault_of_ofEntries {given : Entries} {fault : Fault}
    (unknown : ConversionFields.ofEntries given = .error fault) : fault = .kindMismatch := by
  simp only [ConversionFields.ofEntries, Column.checkNames, Except.bind_eq_error_iff, pure,
    Except.pure, reduceCtorEq, and_false, exists_false, or_false] at unknown
  split at unknown
  · contradiction
  · exact (Except.error.inj unknown).symm

theorem dedupeKey_of_ofEntries {given : Entries}
    (named : ConversionFields.ofEntries given = .ok fields) :
    fields.dedupeKey = given.field "dedupe_key" := by
  simp only [ConversionFields.ofEntries, Except.bind_eq_ok_iff, pure, Except.pure,
    Except.ok.injEq] at named
  obtain ⟨_, _, rfl⟩ := named
  rfl

theorem insertGiven_settles (database : Database) (given : Entries) :
    (∃ fields row, ConversionFields.ofEntries given = .ok fields ∧ database.Takes fields row) ∨
      (∃ fields rule, ConversionFields.ofEntries given = .ok fields ∧
        database.Breaks fields rule) ∨
      ∃ fault, fault ≠ .rowRejected ∧
        insertGiven given database = (⟨.error fault, []⟩, database) := by
  cases named : ConversionFields.ofEntries given with
  | error fault =>
      refine Or.inr (Or.inr ⟨fault, ?_, insertGiven_of_unknown named⟩)
      rw [fault_of_ofEntries named]
      decide
  | ok fields =>
      rcases database.insertConversion_settles fields with
        ⟨row, takes⟩ | ⟨rule, broken⟩ | ⟨fault, isOther, failed⟩
      · exact Or.inl ⟨fields, row, rfl, takes⟩
      · exact Or.inr (Or.inl ⟨fields, rule, rfl, broken⟩)
      · exact Or.inr (Or.inr ⟨fault, isOther,
          (insertGiven_of_fields named).trans (insert_of_error failed)⟩)

/-- A row that is given to the table is stored as its last one under an unused id, or the table stays
as it is. It stays so without a word where the key of the row is in use, which it never is for a row
without one, and with a notice where the row breaks another rule; what is no matter of a rule is a
fault. -/
theorem insertGiven_stores_or_leaves (database : Database) (unique : database.KeysUnique)
    (given : Entries) :
    ((∃ fields row, ConversionFields.ofEntries given = .ok fields ∧ database.Takes fields row ∧
          insertGiven given database = (⟨.ok (some row), []⟩, database.withConversions [row]) ∧
          (database.withConversions [row]).KeysUnique) ∨
        (∃ fields rule, ConversionFields.ofEntries given = .ok fields ∧
          database.Breaks fields rule ∧
          insertGiven given database = (⟨.ok none, noticesOf rule⟩, database)) ∨
        ∃ fault, fault ≠ .rowRejected ∧
          insertGiven given database = (⟨.error fault, []⟩, database)) ∧
      (Column.text (given.field "dedupe_key") = .ok none →
        ∀ fields, ConversionFields.ofEntries given = .ok fields →
          ¬database.Breaks fields .keyUnused) ∧
      (.rowRefused ∈ (insertGiven given database).1.notices ↔
        ∃ fields rule, ConversionFields.ofEntries given = .ok fields ∧
          database.Breaks fields rule ∧ rule ≠ .keyUnused) := by
  have broken_run : ∀ {fields rule}, ConversionFields.ofEntries given = .ok fields →
      database.Breaks fields rule →
        insertGiven given database = (⟨.ok none, noticesOf rule⟩, database) :=
    fun named broken => (insertGiven_of_fields named).trans (insert_of_breaks broken)
  refine ⟨?_, fun noKey fields named => ?_, ?_⟩
  · rcases insertGiven_settles database given with
      ⟨fields, row, named, takes⟩ | ⟨fields, rule, named, broken⟩ | failed
    · exact Or.inl ⟨fields, row, named, takes,
        (insertGiven_of_fields named).trans (insert_of_takes takes), unique.withRow takes.keyFree⟩
    · exact Or.inr (Or.inl ⟨fields, rule, named, broken, broken_run named broken⟩)
    · exact Or.inr (Or.inr failed)
  · rw [← dedupeKey_of_ofEntries named] at noKey
    exact Database.not_breaks_keyUnused noKey
  · constructor
    · intro noted
      rcases insertGiven_settles database given with
        ⟨fields, row, named, takes⟩ | ⟨fields, rule, named, broken⟩ | ⟨fault, _, failed⟩
      · rw [(insertGiven_of_fields named).trans (insert_of_takes takes)] at noted
        simp at noted
      · rw [broken_run named broken] at noted
        exact ⟨fields, rule, named, broken, (rowRefused_mem_noticesOf rule).mp noted⟩
      · rw [failed] at noted
        simp at noted
    · rintro ⟨fields, rule, named, broken, isOther⟩
      rw [broken_run named broken]
      exact (rowRefused_mem_noticesOf rule).mpr isOther

def signupRecorded : Database :=
  Database.empty.withConversions
    [⟨1, 1, none, none, none, none, none, none, none, .null, some "session:s1"⟩]

theorem goalless_row_noticed :
    signupRecorded.KeysUnique ∧ .rowRefused ∈ (insertGiven
      [(.text "goal_id", .null), (.text "dedupe_key", .text "session:s1")] signupRecorded).1.notices := by
  have unique : signupRecorded.KeysUnique := List.pairwise_singleton _ _
  have named : ConversionFields.ofEntries
      [(.text "goal_id", .null), (.text "dedupe_key", .text "session:s1")] =
        .ok { dedupeKey := .text "session:s1" } := by
    simp [ConversionFields.ofEntries, Column.checkNames, ConversionFields.names,
      Entries.field_eq, Entries.field?_cons_text, Value.text?, bind, Except.bind, pure, Except.pure]
  have written : ConversionFields.IsWritten { dedupeKey := .text "session:s1" } :=
    ⟨⟨_, rfl⟩, ⟨_, rfl⟩, rfl, ⟨_, rfl⟩, ⟨_, rfl⟩, ⟨_, rfl⟩, ⟨_, rfl⟩, ⟨_, rfl⟩, ⟨_, rfl⟩, ⟨_, rfl⟩,
      ⟨_, rfl⟩⟩
  refine ⟨unique, ?_⟩
  rw [(insertGiven_stores_or_leaves signupRecorded unique _).2.2]
  exact ⟨_, .goalGiven, named, ⟨written, ⟨_, rfl⟩, rfl⟩, by decide⟩

end Conversions

end ConversionTracking
