import ConversionTracking.GoalsFile
import ConversionTracking.Proofs.Definition.BreakingOff

/-!
Files of goals as they are loaded. Every entry is accepted or reported, in its place and for itself
alone, unless the validation of one breaks off and the load with it.
-/

namespace ConversionTracking

namespace GoalsFile

def accepted? (entry : Value) : Option GoalDefinition :=
  match entry with
  | .map attributes => (GoalDefinition.validate attributes).result.toOption
  | _ => none

def reported? (entry : Value × Nat) : Option RefusedEntry :=
  match entry.1 with
  | .map attributes =>
      match (GoalDefinition.validate attributes).result with
      | .error (.definition fault) => some ⟨label entry.2 entry.1, some fault⟩
      | _ => none
  | _ => some ⟨label entry.2 entry.1, none⟩

structure Accounts (loaded : LoadedGoals) (entries : List Value) : Prop where
  definitions : loaded.definitions = entries.filterMap accepted?
  refused : loaded.refused = entries.zipIdx.filterMap reported?
  complete : loaded.definitions.length + loaded.refused.length = entries.length

theorem result_readEntry_map (position : Nat) (attributes : Entries) :
    (readEntry position (.map attributes)).result =
      match (GoalDefinition.validate attributes).result with
      | .ok definition => .ok (.ok definition)
      | .error (.definition fault) =>
          .ok (.error ⟨label position (.map attributes), some fault⟩)
      | .error fault => .error fault := by
  unfold readEntry
  rw [Outcome.result_recover]
  have mapped : (Except.ok <$> GoalDefinition.validate attributes : Outcome
      (Except RefusedEntry GoalDefinition)).result =
        (GoalDefinition.validate attributes).result.map .ok := by
    change (_ >>= _ : Outcome _).result = _
    rw [Outcome.result_bind]
    cases (GoalDefinition.validate attributes).result <;> rfl
  rw [mapped]
  cases (GoalDefinition.validate attributes).result with
  | ok definition => rfl
  | error fault => cases fault <;> rfl

/-- The validation of the entry breaks off. -/
def BreaksOff (entry : Value) : Prop :=
  ∃ attributes, entry = .map attributes ∧ GoalDefinition.BreaksOff attributes

theorem result_readEntry_cases (position : Nat) (entry : Value) :
    (BreaksOff entry ∧ ∃ fault, (readEntry position entry).result = .error fault) ∨
      (¬BreaksOff entry ∧
        ((∃ definition, accepted? entry = some definition ∧ reported? (entry, position) = none ∧
            (readEntry position entry).result = .ok (.ok definition)) ∨
          ∃ refused, accepted? entry = none ∧ reported? (entry, position) = some refused ∧
            (readEntry position entry).result = .ok (.error refused))) := by
  cases entry with
  | map attributes =>
      have breaks_iff : BreaksOff (.map attributes) ↔ GoalDefinition.BreaksOff attributes := by
        simp [BreaksOff]
      rw [breaks_iff, GoalDefinition.breaksOff_iff, result_readEntry_map]
      cases validated : (GoalDefinition.validate attributes).result with
      | ok definition =>
          refine Or.inr ⟨by simp, Or.inl ⟨definition, ?_, ?_, rfl⟩⟩
          · simp [accepted?, validated, Except.toOption]
          · simp [reported?, validated]
      | error fault =>
          cases fault with
          | definition cause =>
              refine Or.inr ⟨by simp, Or.inr ⟨_, ?_, ?_, rfl⟩⟩
              · simp [accepted?, validated, Except.toOption]
              · simp [reported?, validated]
          | _ => exact Or.inl ⟨⟨_, rfl, fun cause same => by cases same⟩, _, rfl⟩
  | _ =>
      refine Or.inr ⟨?_, Or.inr ⟨_, rfl, rfl, rfl⟩⟩
      rintro ⟨_, same, _⟩
      cases same

theorem result_readEntries_eq_ok_iff (position : Nat) (entries : List Value)
    (loaded : LoadedGoals) :
    (readEntries position entries).result = .ok loaded ↔
      (∀ entry ∈ entries, ¬BreaksOff entry) ∧
        loaded = ⟨entries.filterMap accepted?, (entries.zipIdx position).filterMap reported?⟩ := by
  induction entries generalizing position loaded with
  | nil => simp [readEntries, LoadedGoals.empty, eq_comm]
  | cons entry rest ih =>
      rw [readEntries, Outcome.bind_eq_ok_iff, List.forall_mem_cons, List.zipIdx_cons]
      simp only [Outcome.bind_eq_ok_iff, ih]
      rcases result_readEntry_cases position entry with ⟨breaks, fault, failed⟩ |
        ⟨passes, ⟨definition, isAccepted, notReported, reads⟩ |
          ⟨refused, notAccepted, isReported, reads⟩⟩
      · simp [failed, breaks]
      · simp [reads, passes, isAccepted, notReported, eq_comm]
      · simp [reads, passes, notAccepted, isReported, eq_comm]

theorem length_accepted_add_reported (position : Nat) {entries : List Value}
    (pass : ∀ entry ∈ entries, ¬BreaksOff entry) :
    (entries.filterMap accepted?).length +
      ((entries.zipIdx position).filterMap reported?).length = entries.length := by
  induction entries generalizing position with
  | nil => rfl
  | cons entry rest ih =>
      obtain ⟨passes, restPass⟩ := List.forall_mem_cons.mp pass
      have restLength := ih (position + 1) restPass
      rw [List.zipIdx_cons]
      rcases result_readEntry_cases position entry with ⟨breaks, _⟩ |
        ⟨_, ⟨definition, isAccepted, notReported, _⟩ | ⟨refused, notAccepted, isReported, _⟩⟩
      · exact absurd breaks passes
      · rw [List.filterMap_cons_some isAccepted, List.filterMap_cons_none notReported,
          List.length_cons, List.length_cons]
        omega
      · rw [List.filterMap_cons_none notAccepted, List.filterMap_cons_some isReported,
          List.length_cons, List.length_cons]
        omega

theorem result_reportRefused (refused : List RefusedEntry) :
    (reportRefused refused).result = .ok () := by
  induction refused with
  | nil => rfl
  | cons _ rest ih => rw [reportRefused, Outcome.result_bind, Outcome.result_note, ih]

/-- A file loads exactly when its text has a value, its goals are entries, and the validation of none
of them breaks off; then all of them are accounted for. -/
theorem load_eq_ok_iff (path text : String) (loaded : LoadedGoals) :
    (load path (some text)).result = .ok loaded ↔
      ∃ content entries, Yaml.valueOfText text = .ok content ∧
        entriesOf path content = .ok entries ∧ (∀ entry ∈ entries, ¬BreaksOff entry) ∧
        loaded = ⟨entries.filterMap accepted?, entries.zipIdx.filterMap reported?⟩ := by
  have parse_iff (content : Value) :
      parse path text = .ok content ↔ Yaml.valueOfText text = .ok content := by
    unfold parse
    split <;> simp_all
  rw [load]
  simp only [Outcome.bind_eq_ok_iff, Outcome.result_ofExcept, parse_iff,
    result_readEntries_eq_ok_iff, result_reportRefused, Outcome.result_pure, Except.ok.injEq]
  constructor
  · rintro ⟨content, reads, entries, areEntries, _, ⟨pass, rfl⟩, _, _, rfl⟩
    exact ⟨content, entries, reads, areEntries, pass, rfl⟩
  · rintro ⟨content, entries, reads, areEntries, pass, rfl⟩
    exact ⟨content, reads, entries, areEntries, _, ⟨pass, rfl⟩, (), trivial, rfl⟩

/-- A load ends as it should: the file is refused as a whole, for no value or for goals that are no
collection, or every entry is accounted for. -/
inductive LoadsAsDocumented (path text : String) : Prop where
  | unreadable (malformed : Yaml.valueOfText text = .error .malformed)
      (refused : (load path (some text)).result =
        .error (.configuration (.goalsFileUnreadable path)))
  | notCollection {fields : Entries} (reads : Yaml.valueOfText text = .ok (.map fields))
      (notNull : Entries.field fields "goals" ≠ .null)
      (notMap : ∀ goals, Entries.field fields "goals" ≠ .map goals)
      (notList : ∀ goals, Entries.field fields "goals" ≠ .list goals)
      (refused : (load path (some text)).result =
        .error (.configuration (.goalsNotCollection path)))
  | loaded {content : Value} {entries : List Value} {loaded : LoadedGoals}
      (reads : Yaml.valueOfText text = .ok content)
      (areEntries : entriesOf path content = .ok entries)
      (returned : (load path (some text)).result = .ok loaded)
      (accounts : Accounts loaded entries)

theorem entriesOf_of_notCollection (path : String) {fields : Entries}
    (notNull : Entries.field fields "goals" ≠ .null)
    (notMap : ∀ goals, Entries.field fields "goals" ≠ .map goals)
    (notList : ∀ goals, Entries.field fields "goals" ≠ .list goals) :
    entriesOf path (.map fields) = .error (.configuration (.goalsNotCollection path)) := by
  unfold entriesOf
  cases isField : Entries.field fields "goals" with
  | null => exact absurd isField notNull
  | map goals => exact absurd isField (notMap goals)
  | list goals => exact absurd isField (notList goals)
  | _ => simp only [isField]

theorem entriesOf_cases (path : String) (content : Value) :
    (∃ entries, entriesOf path content = .ok entries) ∨
      ∃ fields, content = .map fields ∧ Entries.field fields "goals" ≠ .null ∧
        (∀ goals, Entries.field fields "goals" ≠ .map goals) ∧
        (∀ goals, Entries.field fields "goals" ≠ .list goals) := by
  unfold entriesOf
  split
  · rename_i fields
    split
    · exact Or.inl ⟨_, rfl⟩
    · exact Or.inl ⟨_, rfl⟩
    · exact Or.inl ⟨_, rfl⟩
    · rename_i notNull notList notMap
      exact Or.inr ⟨fields, rfl, notNull, notMap, notList⟩
  · exact Or.inl ⟨[], rfl⟩

theorem result_load_of_unread {path text : String} {fault : Fault}
    (unread : (parse path text >>= entriesOf path) = .error fault) :
    (load path (some text)).result = .error fault := by
  rw [load, Outcome.result_bind, Outcome.result_ofExcept]
  cases parsed : parse path text with
  | error other =>
      rw [parsed] at unread
      exact congrArg Except.error (Except.error.inj unread)
  | ok content =>
      rw [parsed] at unread
      have noEntries : entriesOf path content = .error fault := unread
      simp only [Outcome.result_bind, Outcome.result_ofExcept, noEntries]

/-- A load ends as it should exactly when every scalar of the file has a value and the validation of
no entry breaks off. -/
theorem load_as_documented_iff (path text : String) :
    LoadsAsDocumented path text ↔
      (∀ cause, Yaml.valueOfText text ≠ .error (.inconvertible cause)) ∧
        ∀ content entries, Yaml.valueOfText text = .ok content →
          entriesOf path content = .ok entries → ∀ entry ∈ entries, ¬BreaksOff entry := by
  constructor
  · intro documented
    cases documented with
    | unreadable malformed _ => simp [malformed]
    | @notCollection fields reads notNull notMap notList _ =>
        refine ⟨by simp [reads], fun content entries isContent areEntries => ?_⟩
        obtain rfl := Except.ok.inj (reads.symm.trans isContent)
        rw [entriesOf_of_notCollection path notNull notMap notList] at areEntries
        contradiction
    | loaded reads areEntries returned _ =>
        refine ⟨by simp [reads], fun content others isContent areOthers => ?_⟩
        obtain ⟨_, entries, isRead, areRead, pass, _⟩ := (load_eq_ok_iff path text _).mp returned
        obtain rfl := Except.ok.inj (isRead.symm.trans isContent)
        obtain rfl := Except.ok.inj (areRead.symm.trans areOthers)
        exact pass
  · rintro ⟨convertible, pass⟩
    cases reads : Yaml.valueOfText text with
    | error fault =>
        cases fault with
        | malformed =>
            refine .unreadable reads (result_load_of_unread ?_)
            rw [parse, reads]
            rfl
        | inconvertible cause => exact absurd reads (convertible cause)
    | ok content =>
        rcases entriesOf_cases path content with ⟨entries, areEntries⟩ |
          ⟨fields, rfl, notNull, notMap, notList⟩
        · have passing := pass content entries reads areEntries
          refine .loaded reads areEntries ((load_eq_ok_iff path text _).mpr
            ⟨content, entries, reads, areEntries, passing, rfl⟩) ⟨rfl, rfl, ?_⟩
          exact length_accepted_add_reported 0 passing
        · refine .notCollection reads notNull notMap notList (result_load_of_unread ?_)
          rw [parse, reads]
          exact entriesOf_of_notCollection path notNull notMap notList

def numberedText : String :=
  "goals: [\x7bname: Signup, type: event, 1: x\x7d, \x7bname: Visit, type: pageview\x7d]"

/-- The key stops the load, and neither goal is accounted for. -/
theorem numbered_key_stops_load : ¬LoadsAsDocumented "goals.yml" numberedText := by
  have stopped : ((load "goals.yml" (some numberedText)).result.map fun _ => ()) =
      .error .kindMismatch := by
    decide +kernel
  rintro (⟨_, refused⟩ | ⟨_, _, _, _, refused⟩ | ⟨_, _, returned, _⟩)
  · rw [refused] at stopped
    contradiction
  · rw [refused] at stopped
    contradiction
  · rw [returned] at stopped
    contradiction

end GoalsFile

end ConversionTracking
