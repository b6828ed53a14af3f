import ConversionTracking.Proofs.GoalsFile.Loading
import ConversionTracking.Proofs.GoalsFile.Syncs
import ConversionTracking.Proofs.Store.Storable
import ConversionTracking.Proofs.Yaml.Values

/-!
Files of goals as they are brought into the database. What a file loads as is stored as far as its
documents and its site fit their columns; a goal that has the name already keeps its own site.
-/

namespace ConversionTracking

namespace GoalDefinition

section

variable {definition : GoalDefinition} (goal : Goal)

theorem IsDecimalFree.inPlaceOf (decimalFree : definition.IsDecimalFree) :
    (definition.inPlaceOf goal).IsDecimalFree := ⟨decimalFree.conditions, decimalFree.steps⟩

theorem isStorable_inPlaceOf : (definition.inPlaceOf goal).IsStorable ↔ definition.IsStorable :=
  ⟨fun storable => ⟨storable.conditions, storable.steps⟩,
    fun storable => ⟨storable.conditions, storable.steps⟩⟩

end

end GoalDefinition

namespace Database

def goalNames (database : Database) : List String := database.goals.map (·.name)

theorem goalNames_addGoal (database : Database) (goal : Goal) :
    (database.addGoal goal).goalNames = database.goalNames ++ [goal.name] := by
  simp [goalNames, addGoal]

theorem goalNames_replaceGoal {database : Database} (distinct : database.GoalIdsDistinct)
    {stored changed : Goal} (held : stored ∈ database.goals) (sameId : changed.id = stored.id)
    (sameName : changed.name = stored.name) :
    (database.replaceGoal changed).goalNames = database.goalNames := by
  simp only [goalNames, replaceGoal, List.map_map]
  apply List.map_congr_left
  intro goal isGoal
  simp only [Function.comp_apply]
  split
  · rename_i same
    obtain rfl := List.inj_on_of_nodup_map distinct isGoal held (same.trans sameId)
    exact sameName
  · rfl

theorem goalNamed_everything_eq_none_iff (database : Database) (name : String) :
    database.goalNamed .everything name = none ↔ name ∉ database.goalNames := by
  rw [goalNamed_eq_none_iff, goalNames, List.mem_map]
  constructor
  · rintro unnamed ⟨goal, held, isNamed⟩
    exact unnamed goal held goal.isWithin_everything isNamed
  · exact fun isNew goal held _ isNamed => isNew ⟨goal, held, isNamed⟩

end Database

namespace GoalsFile

theorem not_hasDecimal_of_entriesOf {path : String} {content : Value} {entries : List Value}
    (areEntries : entriesOf path content = .ok entries) (noDecimal : ¬content.HasDecimal) :
    ∀ entry ∈ entries, ¬entry.HasDecimal := by
  unfold entriesOf at areEntries
  split at areEntries
  · rename_i fields
    have ofGoals : ¬(Entries.field fields "goals").HasDecimal := by
      rw [Entries.field_eq]
      cases found : Entries.field? fields "goals" with
      | none => exact Value.not_hasDecimal_null
      | some goals => exact Entries.not_hasDecimal_of_field? found noDecimal
    split at areEntries
    · obtain rfl := Except.ok.inj areEntries
      exact List.forall_mem_nil _
    · rename_i goals isList
      obtain rfl := Except.ok.inj areEntries
      exact (Value.not_hasDecimal_list_iff goals).mp (isList ▸ ofGoals)
    · rename_i goals isMap
      obtain rfl := Except.ok.inj areEntries
      rw [isMap, Value.not_hasDecimal_map_iff] at ofGoals
      rw [List.forall_mem_map]
      rintro ⟨name, body⟩ isGoal
      obtain ⟨ofName, ofBody⟩ := ofGoals _ isGoal
      cases body with
      | map attributes =>
          rw [Value.not_hasDecimal_map_iff] at ofBody ⊢
          have ofNameAlone : ∀ entry ∈ [((.text "name" : Value), name)],
              ¬entry.1.HasDecimal ∧ ¬entry.2.HasDecimal :=
            List.forall_mem_singleton.mpr ⟨Value.not_hasDecimal_text _, ofName⟩
          exact Entries.forall_merge (fun key => ¬key.HasDecimal) (fun value => ¬value.HasDecimal)
            ofNameAlone ofBody
      | _ => exact ofBody
    · contradiction
  · obtain rfl := Except.ok.inj areEntries
    exact List.forall_mem_nil _

/-- What a definition from a file is, whatever the file has. -/
structure IsLoaded (definition : GoalDefinition) : Prop where
  wellFormed : definition.IsWellFormed
  consistent : definition.IsConsistent
  decimalFree : definition.IsDecimalFree

theorem isLoaded_of_load {path text : String} {loaded : LoadedGoals}
    (loads : (load path (some text)).result = .ok loaded) :
    ∀ definition ∈ loaded.definitions, IsLoaded definition := by
  obtain ⟨content, entries, reads, areEntries, _, rfl⟩ := (load_eq_ok_iff path text loaded).mp loads
  intro definition isLoaded
  obtain ⟨entry, isEntry, isAccepted⟩ := List.mem_filterMap.mp isLoaded
  cases entry with
  | map attributes =>
      have valid : (GoalDefinition.validate attributes).result = .ok definition := by
        unfold accepted? at isAccepted
        cases validated : (GoalDefinition.validate attributes).result with
        | error fault => simp [validated, Except.toOption] at isAccepted
        | ok other =>
            simp only [validated, Except.toOption, Option.some.injEq] at isAccepted
            rw [isAccepted]
      have noDecimal := not_hasDecimal_of_entriesOf areEntries
        (Yaml.not_hasDecimal_of_valueOfText reads) _ isEntry
      obtain ⟨_, isRead, _⟩ := (GoalDefinition.validate_eq_ok_iff _ _).mp valid
      obtain ⟨wellFormed, consistent⟩ := GoalDefinition.isWellFormed_of_validate valid
      exact ⟨wellFormed, consistent, GoalDefinition.isDecimalFree_of_reads
        ((GoalDefinition.ofEntries_eq_valid_iff _ _).mp isRead) noDecimal⟩
  | _ => contradiction

theorem SyncStep.mem_goalNames_iff {definition : GoalDefinition} {database after : Database}
    {made : SyncCounts} (step : SyncStep .everything definition database after made)
    (distinct : database.GoalIdsDistinct) (name : String) :
    name ∈ after.goalNames ↔ name ∈ database.goalNames ++ [definition.name] := by
  cases step with
  | created _ made =>
      have isNamed := (Goal.stores_of_ofDefinition made).name
      rw [definition.placedIn_everything] at isNamed
      rw [Database.goalNames_addGoal, isNamed]
  | revised named made =>
      obtain ⟨held, isNamed⟩ := Database.mem_of_goalNamed named
      have kept := Goal.keepsPlace_of_revised isNamed made
      have isTaken : definition.name ∈ database.goalNames := isNamed ▸ List.mem_map_of_mem held
      rw [Database.goalNames_replaceGoal distinct held kept.id kept.name, List.mem_append,
        List.mem_singleton]
      exact ⟨Or.inl, fun isName => isName.elim id fun same => same ▸ isTaken⟩

section

variable {definition : GoalDefinition} (loaded : IsLoaded definition)

include loaded

theorem IsLoaded.result_create (database : Database) :
    (Goals.create .everything (givenFields definition)).result database =
      Goal.ofDefinition (database.nextId database.goalIds) definition := by
  have valid := (validate_scopedAttributes_iff loaded.wellFormed .everything _).mpr
    ⟨rfl, loaded.consistent⟩
  rw [Goals.result_create, valid, definition.placedIn_everything]
  rfl

theorem IsLoaded.result_updateGoal (stored : Goal) (database : Database) :
    (Goals.updateGoal stored (unscopedFields definition)).result database =
      stored.revised (definition.inPlaceOf stored) := by
  rw [Goals.result_updateGoal,
    (validate_unscopedFields_iff loaded.wellFormed stored _).mpr ⟨rfl, loaded.consistent⟩]
  rfl

theorem IsLoaded.storedIff_syncOne {database : Database} (valid : database.StoresValid)
    (counts : SyncCounts) :
    StoredIff (definition.IsStorable ∧
        (definition.SiteFits ∨ definition.name ∈ database.goalNames))
      ((syncOne .everything counts definition).result database) := by
  cases named : database.goalNamed .everything definition.name with
  | none =>
      have isNew := (database.goalNamed_everything_eq_none_iff _).mp named
      rw [(syncOne_of_unnamed Scope.fitsWord_everything named counts).1, loaded.result_create]
      refine StoredIff.congr ?_ ((Goal.storedIff_ofDefinition _ definition).map _)
      simp only [isNew, or_false]
  | some stored =>
      obtain ⟨held, isNamed⟩ := Database.mem_of_goalNamed named
      obtain ⟨_, _, _, stores⟩ := valid stored held
      have isTaken : definition.name ∈ database.goalNames := isNamed ▸ List.mem_map_of_mem held
      have siteFits : (definition.inPlaceOf stored).SiteFits := stores.siteFits
      rw [(syncOne_of_named Scope.fitsWord_everything named counts).1, loaded.result_updateGoal]
      refine StoredIff.congr ?_ ((Goal.storedIff_revised
        ⟨stores.conditions.isDocument, stores.funnelSteps.isDocument⟩
        (loaded.decimalFree.inPlaceOf stored)).map _)
      simp only [GoalDefinition.isStorable_inPlaceOf, siteFits, isTaken, or_true]

end

/-- The definitions can be stored one after another. Each can be written, and its site fits unless its
name is taken by then, by one of the names or by an earlier definition. -/
def Syncable (names : List String) (definitions : List GoalDefinition) : Prop :=
  ∀ before definition after, definitions = before ++ definition :: after →
    definition.IsStorable ∧
      (definition.SiteFits ∨ definition.name ∈ names ++ before.map (·.name))

theorem syncable_nil (names : List String) : Syncable names [] := by simp [Syncable]

theorem syncable_cons_iff {names taken : List String} {definition : GoalDefinition}
    {rest : List GoalDefinition} (areTaken : ∀ name, name ∈ taken ↔ name ∈ names ++ [definition.name]) :
    Syncable names (definition :: rest) ↔
      (definition.IsStorable ∧ (definition.SiteFits ∨ definition.name ∈ names)) ∧
        Syncable taken rest := by
  have sameNames (before : List GoalDefinition) (name : String) :
      name ∈ taken ++ before.map (·.name) ↔
        name ∈ names ++ (definition :: before).map (·.name) := by
    simp [areTaken, or_assoc]
  constructor
  · intro syncable
    refine ⟨by simpa using syncable [] definition rest rfl, fun before other after split => ?_⟩
    rw [sameNames]
    exact syncable (definition :: before) other after (by rw [split, List.cons_append])
  · rintro ⟨first, syncable⟩ before other after split
    cases before with
    | nil =>
        obtain ⟨rfl, _⟩ := List.cons.inj split
        simpa using first
    | cons earlier before =>
        obtain ⟨rfl, restSplit⟩ := List.cons.inj split
        rw [← sameNames]
        exact syncable before other after restSplit

theorem storedIff_sync {definitions : List GoalDefinition}
    (loaded : ∀ definition ∈ definitions, IsLoaded definition) (counts : SyncCounts)
    {database : Database} (valid : database.StoresValid) (distinct : database.GoalIdsDistinct) :
    StoredIff (Syncable database.goalNames definitions)
      ((sync .everything counts definitions).result database) := by
  induction definitions generalizing counts database with
  | nil => exact .stored (syncable_nil _) counts
  | cons definition rest ih =>
      obtain ⟨firstLoaded, restLoaded⟩ := List.forall_mem_cons.mp loaded
      -- The step keeps what the rest relies on, valid rows under distinct ids, and takes its name.
      have first := firstLoaded.storedIff_syncOne valid counts
      have changes := changes_syncOne .everything counts definition database
      have stillDistinct := changes.related (fun _ _ => Database.keepsIdsDistinct_addGoal)
        Database.keepsIdsDistinct_replaceGoal distinct
      rw [sync, Work.result_bind]
      generalize synced : (syncOne .everything counts definition).result database = result at first
      cases first with
      | stored holds counted =>
          obtain ⟨_, _, step, _⟩ := (syncOne_eq_ok_iff Scope.fitsWord_everything
            firstLoaded.wellFormed counts counted database _).mp ⟨synced, rfl⟩
          have taken := step.mem_goalNames_iff distinct
          refine StoredIff.congr ?_ (ih restLoaded counted (changes.storesValid valid) stillDistinct)
          simp only [syncable_cons_iff taken, holds, true_and]
      | notStorable fails =>
          exact .notStorable fun syncable =>
            fails ((syncable_cons_iff fun _ => Iff.rfl).mp syncable).1
      | beyondColumn fails =>
          exact .beyondColumn fun syncable =>
            fails ((syncable_cons_iff fun _ => Iff.rfl).mp syncable).1

theorem result_loadAndSync {path text : String} {loaded : LoadedGoals}
    (loads : (load path (some text)).result = .ok loaded) (scope : Scope) (database : Database) :
    (loadAndSync scope path (some text)).result database =
      (sync scope ⟨0, 0⟩ loaded.definitions).result database := by
  rw [loadAndSync, Work.result_bind, Work.result_ofOutcome, loads, Work.after_ofOutcome]

theorem storedIff_start {path : String} {text : Option String} {possible : Prop}
    {database : Database}
    (stored : StoredIff possible ((loadAndSync .everything path text).result database)) :
    StoredIff possible ((start path text).result database) := by
  unfold start
  rw [Work.result_recover, Work.result_bind]
  generalize (loadAndSync .everything path text).result database = result at stored
  cases stored with
  | stored holds _ => exact .stored holds ()
  | notStorable fails => exact .notStorable fails
  | beyondColumn fails => exact .beyondColumn fails

/-- A surrogate stands in the text as an escape, by its code in four or eight hexadecimal digits. -/
def escapesSurrogate (text : String) : Bool :=
  text.toList.tails.any fun chars =>
    let code := match chars with
      | '\\' :: 'u' :: digits => Unicode.hexNumber (digits.take 4)
      | '\\' :: 'U' :: digits => Unicode.hexNumber (digits.take 8)
      | _ => 0
    0xD800 ≤ code && code < 0xE000

/-- What a file loads as, with texts of characters only: a surrogate that a file escapes is none. -/
structure Loads (path text : String) (loaded : LoadedGoals) : Prop where
  result : (load path (some text)).result = .ok loaded
  noSurrogate : escapesSurrogate text = false

/-- What a file loads as can be brought into the database that any operations leave, and the program
starts with the file, exactly when the definitions can be stored. -/
theorem loaded_synced_iff (ids : IdDraw) (operations : List Operation) {path text : String}
    {loaded : LoadedGoals} (loads : Loads path text loaded) :
    let database := Operation.run operations (.empty ids)
    StoredIff (Syncable database.goalNames loaded.definitions)
        ((sync .everything ⟨0, 0⟩ loaded.definitions).result database) ∧
      StoredIff (Syncable database.goalNames loaded.definitions)
        ((start path (some text)).result database) := by
  have valid := Operation.storesValid_run operations (Database.storesValid_empty ids)
  have distinct := (Operation.regular_run operations (Database.regular_empty ids)).idsDistinct
  have stored := storedIff_sync (isLoaded_of_load loads.result) ⟨0, 0⟩ valid distinct
  exact ⟨stored, storedIff_start (result_loadAndSync loads.result .everything _ ▸ stored)⟩

def oversizedSiteText : String :=
  "goals: [\x7bname: Signup, type: event, site_id: 9223372036854775808\x7d]"

theorem oversized_site_starts_beside_signup :
    let database := Operation.run [Operation.createSignup] .empty
    ∃ loaded, (load "goals.yml" (some oversizedSiteText)).result = .ok loaded ∧
      (∃ counts, (sync .everything ⟨0, 0⟩ loaded.definitions).result database = .ok counts) ∧
      (start "goals.yml" (some oversizedSiteText)).result database = .ok () := by
  have plain : ((load "goals.yml" (some oversizedSiteText)).result.map fun loaded =>
      loaded.definitions.map fun definition => (definition.name,
        definition.conditions.toValue.document?.isSome, definition.stepsValue.document?.isSome)) =
      .ok [("Signup", true, true)] := by
    decide +kernel
  have names : (Operation.run [Operation.createSignup] .empty).goalNames = ["Signup"] := by
    decide +kernel
  cases loads : (load "goals.yml" (some oversizedSiteText)).result with
  | error fault =>
      rw [loads] at plain
      contradiction
  | ok loaded =>
      rw [loads] at plain
      obtain ⟨definition, isLoaded, isPlain⟩ := List.map_eq_singleton_iff.mp (Except.ok.inj plain)
      simp only [Prod.mk.injEq, Option.isSome_iff_exists] at isPlain
      obtain ⟨isNamed, conditions, steps⟩ := isPlain
      have syncable : Syncable (Operation.run [Operation.createSignup] .empty).goalNames
          loaded.definitions := by
        rw [isLoaded, names, syncable_cons_iff fun _ => Iff.rfl]
        exact ⟨⟨⟨conditions, steps⟩, Or.inr (by simp [isNamed])⟩, syncable_nil _⟩
      have plainText : escapesSurrogate oversizedSiteText = false := by decide +kernel
      obtain ⟨synced, started⟩ :=
        loaded_synced_iff .lowest [Operation.createSignup] ⟨loads, plainText⟩
      obtain ⟨_, starts⟩ := started.exists_ok_iff.mpr syncable
      exact ⟨loaded, rfl, synced.exists_ok_iff.mpr syncable, starts⟩

def datedText : String :=
  "goals: [\x7bname: Signup, type: event, " ++
    "conditions: \x7bevent_name: signup, event_properties: \x7bsince: 2024-01-01\x7d\x7d\x7d]"

/-- The definition loads, but it cannot be stored, and the program does not start. -/
theorem dated_condition_stops_start :
    ((load "goals.yml" (some datedText)).result.map fun loaded =>
        (loaded.definitions.length, loaded.isValid)) = .ok (1, true) ∧
      (loadAndSync .everything "goals.yml" (some datedText)).result .empty = .error .notStorable ∧
      (start "goals.yml" (some datedText)).result .empty = .error .notStorable := by
  decide +kernel

end GoalsFile

end ConversionTracking
