import ConversionTracking.Proofs.Matching.Isolation

/-!
Whom a visit is taken to be of. What is said of it comes first and the ids of the trigger second. An
empty id that is said names nobody, but the empty id of a trigger is kept as if it named someone.
-/

namespace ConversionTracking

namespace Value

def namesSomeone : Value → Bool
  | .null => false
  | .text identity => !identity.isEmpty
  | _ => true

def ofIdentity (identity : Option String) : Value := (identity.map Value.text).getD .null

end Value

/-- The first identity that names someone, if any does. One that cannot be written out ends the
search. -/
def firstNamed : List (Except NumberFault Value) → Except NumberFault Value
  | [] => .ok .null
  | .error fault :: _ => .error fault
  | .ok identity :: rest => if identity.namesSomeone then .ok identity else firstNamed rest

def NamesNobody (identity : Except NumberFault Value) : Prop :=
  ∃ value, identity = .ok value ∧ value.namesSomeone = false

namespace Trigger

def ownSession (trigger : Trigger) : Except NumberFault Value :=
  match trigger with
  | .session source => (SessionReference.trigger source).identity?.map .ofIdentity
  | _ => .ok ((trigger.field? .sessionId).getD .null)

def ownVisitor (trigger : Trigger) : Value := (trigger.field? .visitorId).getD .null

end Trigger

namespace Visit

def saidSession (visit : Visit) : Except NumberFault Value :=
  visit.session.identity?.map .ofIdentity

def saidVisitor (visit : Visit) : Except NumberFault Value :=
  visit.visitor.identity?.map .ofIdentity

/-- The first that names someone of the session that the visit is said to belong to and the
trigger's own. -/
def namedSession (visit : Visit) : Except NumberFault Value :=
  firstNamed [visit.saidSession, visit.trigger.ownSession]

def namedVisitor (visit : Visit) : Except NumberFault Value :=
  firstNamed [visit.saidVisitor, .ok visit.trigger.ownVisitor]

/-- Nobody's session is said, and then the empty session of an event or a page view is kept, or a
session trigger is not its own session because something that names nobody was said. -/
def MistakesSession (visit : Visit) : Prop :=
  NamesNobody visit.saidSession ∧
    match visit.trigger with
    | .session _ => visit.session.isNull = false ∧ ¬NamesNobody visit.trigger.ownSession
    | _ => visit.trigger.ownSession = .ok (.text "")

def MistakesVisitor (visit : Visit) : Prop :=
  NamesNobody visit.saidVisitor ∧ visit.trigger.ownVisitor = .text ""

def key (visit : Visit) (allowMultiple : Bool) : Except NumberFault (Option String) := do
  let session ← visit.trigger.sessionIdentity visit.session
  let visitor ← visit.trigger.visitorIdentity visit.visitor
  conversionKey allowMultiple session visitor

/-- Two visits without a session whose visitors are not the same. -/
structure OfDifferentVisitors (first second : Visit) : Prop where
  firstSession : first.namedSession = .ok .null
  secondSession : second.namedSession = .ok .null
  different : ∃ one another, first.namedVisitor = .ok one ∧ second.namedVisitor = .ok another ∧
    one.namesSomeone = true ∧ another.namesSomeone = true ∧ one.plainText ≠ another.plainText

def Records (visit : Visit) (settings : Matcher) (database : Database) (goal : Goal) : Prop :=
  ∃ evaluation, (settings.evaluate visit.trigger visit.session visit.visitor).result database =
    .ok evaluation ∧ ∃ conversion ∈ evaluation.conversions, conversion.goalId = goal.id

instance (visit : Visit) (settings : Matcher) (database : Database) (goal : Goal) :
    Decidable (visit.Records settings database goal) :=
  match returned :
      (settings.evaluate visit.trigger visit.session visit.visitor).result database with
  | .ok evaluation =>
      decidable_of_iff (∃ conversion ∈ evaluation.conversions, conversion.goalId = goal.id) <| by
        simp [Records, returned]
  | .error _ => isFalse <| by simp [Records, returned]

def Recorded (visit : Visit) (goal : Goal) (conversion : Conversion) : Prop :=
  ∃ (settings : Matcher) (database : Database) (evaluation : Evaluation),
    database.GoalIdsDistinct ∧ goal ∈ database.goals ∧
      (settings.evaluate visit.trigger visit.session visit.visitor).result database =
        .ok evaluation ∧
      conversion ∈ evaluation.conversions ∧ conversion.goalId = goal.id

end Visit

theorem Value.eq_null_of_isNull {value : Value} (isNull : value.isNull = true) : value = .null := by
  cases value with
  | null => rfl
  | _ => cases isNull

theorem Value.isNull_of_named {identity : Value} (named : identity.namesSomeone = true) :
    identity.isNull = false := by
  cases identity with
  | null => cases named
  | _ => rfl

theorem Value.ne_null_of_named {identity : Value} (named : identity.namesSomeone = true) :
    identity ≠ .null := by
  rintro rfl
  cases named

theorem givenIdentity_eq (given : Option String) (own : Value) :
    givenIdentity given own =
      if (Value.ofIdentity given).namesSomeone then .ofIdentity given else own := by
  cases given with
  | none => rfl
  | some identity =>
      cases empty : identity.isEmpty <;>
        simp [givenIdentity, Value.ofIdentity, Value.namesSomeone, empty]

theorem map_givenIdentity_eq_iff (said : Except NumberFault (Option String)) (own : Value) :
    said.map (givenIdentity · own) = firstNamed [said.map .ofIdentity, .ok own] ↔
      ¬(NamesNobody (said.map .ofIdentity) ∧ own = .text "") := by
  cases said with
  | error fault => simp [NamesNobody, Except.map, firstNamed]
  | ok given =>
      simp only [Except.map, givenIdentity_eq, firstNamed, NamesNobody, Except.ok.injEq,
        exists_eq_left']
      cases named : (Value.ofIdentity given).namesSomeone with
      | true => simp
      | false =>
          cases own with
          | text identity => simp [Value.namesSomeone]
          | _ => simp [Value.namesSomeone]

theorem map_givenIdentity_null (said : Except NumberFault (Option String)) :
    said.map (givenIdentity · .null) = firstNamed [said.map .ofIdentity] := by
  cases said with
  | error fault => rfl
  | ok given =>
      simp only [Except.map, givenIdentity_eq, firstNamed]
      split <;> rfl

theorem firstNamed_eq_ok_null_iff (identity : Except NumberFault Value) :
    firstNamed [identity] = .ok .null ↔ NamesNobody identity := by
  cases identity with
  | error fault => simp [firstNamed, NamesNobody]
  | ok value =>
      cases named : value.namesSomeone with
      | true => simp [firstNamed, NamesNobody, named, Value.ne_null_of_named named]
      | false => simp [firstNamed, NamesNobody, named]

theorem firstNamed_of_namesNobody {said : Except NumberFault Value} (nobody : NamesNobody said)
    (rest : List (Except NumberFault Value)) : firstNamed (said :: rest) = firstNamed rest := by
  obtain ⟨value, rfl, unnamed⟩ := nobody
  simp [firstNamed, unnamed]

theorem firstNamed_of_not_namesNobody {said : Except NumberFault Value}
    (somebody : ¬NamesNobody said) (rest : List (Except NumberFault Value)) :
    firstNamed (said :: rest) = said := by
  cases said with
  | error fault => rfl
  | ok value =>
      have named : value.namesSomeone = true := by
        by_contra unnamed
        exact somebody ⟨value, rfl, by simpa using unnamed⟩
      simp [firstNamed, named]

theorem firstNamed_eq_ok_null {said own : Except NumberFault Value}
    (nobody : firstNamed [said, own] = .ok .null) : NamesNobody said ∧ NamesNobody own := by
  by_cases unsaid : NamesNobody said
  · rw [firstNamed_of_namesNobody unsaid, firstNamed_eq_ok_null_iff] at nobody
    exact ⟨unsaid, nobody⟩
  · rw [firstNamed_of_not_namesNobody unsaid] at nobody
    exact absurd ⟨_, nobody, rfl⟩ unsaid

namespace Visit

theorem sessionIdentity_eq_iff (visit : Visit) :
    visit.trigger.sessionIdentity visit.session = visit.namedSession ↔
      ¬visit.MistakesSession := by
  obtain ⟨trigger, session, visitor⟩ := visit
  unfold MistakesSession namedSession saidSession Trigger.sessionIdentity
  cases trigger with
  | session source =>
      cases unsaid : session.isNull with
      | true =>
          obtain rfl := Value.eq_null_of_isNull unsaid
          exact iff_of_true (map_givenIdentity_null _) (by simp)
      | false =>
          have reference : (Trigger.session source).sessionReference session = .value session := by
            simp [Trigger.sessionReference, unsaid]
          have isSaid := map_givenIdentity_null session.identity?
          simp only [reference, SessionReference.identity?, Trigger.field?, Option.getD_none,
            true_and, isSaid]
          by_cases nobody : NamesNobody (session.identity?.map .ofIdentity)
          · rw [firstNamed_of_namesNobody nobody, firstNamed_of_namesNobody nobody]
            simp only [nobody, true_and, Classical.not_not]
            exact eq_comm.trans (firstNamed_eq_ok_null_iff _)
          · rw [firstNamed_of_not_namesNobody nobody, firstNamed_of_not_namesNobody nobody]
            simp [nobody]
  | _ =>
      refine (map_givenIdentity_eq_iff session.identity? _).trans ?_
      simp [Trigger.ownSession]

theorem visitorIdentity_eq_iff (visit : Visit) :
    visit.trigger.visitorIdentity visit.visitor = visit.namedVisitor ↔
      ¬visit.MistakesVisitor :=
  map_givenIdentity_eq_iff visit.visitor.identity? visit.trigger.ownVisitor

section

variable {visit : Visit}

theorem sessionIdentity_of_mistaken (mistaken : visit.MistakesSession)
    (noSession : visit.namedSession = .ok .null) :
    visit.trigger.sessionIdentity visit.session = .ok (.text "") := by
  obtain ⟨⟨given, isGiven, unnamed⟩, own⟩ := mistaken
  obtain ⟨_, ownUnnamed⟩ := firstNamed_eq_ok_null noSession
  obtain ⟨trigger, session, visitor⟩ := visit
  obtain ⟨identity, isIdentity, rfl⟩ := Except.map_eq_ok_iff.mp isGiven
  cases trigger with
  | session source => exact absurd ownUnnamed own.2
  | _ =>
      change session.identity?.map _ = _
      rw [isIdentity, Except.map, givenIdentity_eq, unnamed]
      exact own

theorem visitorIdentity_of_named {name : Value} (isNamed : visit.namedVisitor = .ok name)
    (named : name.namesSomeone = true) :
    visit.trigger.visitorIdentity visit.visitor = .ok name := by
  rw [← isNamed, visitorIdentity_eq_iff]
  rintro ⟨unsaid, ownEmpty⟩
  have nobody : visit.namedVisitor = .ok .null := by
    rw [namedVisitor, firstNamed_of_namesNobody unsaid, firstNamed_eq_ok_null_iff, ownEmpty]
    exact ⟨_, rfl, rfl⟩
  exact Value.ne_null_of_named named (Except.ok.inj (isNamed.symm.trans nobody))

theorem key_of_noSession (noSession : visit.namedSession = .ok .null) {name : Value}
    (isNamed : visit.namedVisitor = .ok name) (named : name.namesSomeone = true) :
    (visit.MistakesSession ∧ visit.key false = .ok (some "session:")) ∨
      (¬visit.MistakesSession ∧
        visit.key false = name.written.map fun text => some ("visitor:" ++ text)) := by
  unfold key
  rw [visitorIdentity_of_named isNamed named]
  by_cases mistaken : visit.MistakesSession
  · refine Or.inl ⟨mistaken, ?_⟩
    rw [sessionIdentity_of_mistaken mistaken noSession]
    rfl
  · have isVisitor := Value.isNull_of_named named
    refine Or.inr ⟨mistaken, ?_⟩
    rw [visit.sessionIdentity_eq_iff.mpr mistaken, noSession]
    change conversionKey false .null name = _
    simp only [conversionKey, show Value.null.isNull = true from rfl, isVisitor]
    rfl

end

theorem OfDifferentVisitors.keys_agree_iff {first second : Visit}
    (different : first.OfDifferentVisitors second) :
    (∃ key, first.key false = .ok (some key) ∧ second.key false = .ok (some key)) ↔
      first.MistakesSession ∧ second.MistakesSession := by
  -- A mistaken session makes a key that no visitor's key equals.
  have kinds (visitor : String) : "session:" ≠ "visitor:" ++ visitor := by
    intro same
    simpa using congrArg String.toList same
  have key_eq_iff (name : Value) (key : String) :
      (name.written.map fun text => some ("visitor:" ++ text)) = .ok (some key) ↔
        name.isWritable = true ∧ "visitor:" ++ name.plainText = key := by
    unfold Value.written
    split <;> simp_all [Except.map]
  obtain ⟨one, another, isOne, isAnother, oneNamed, anotherNamed, differ⟩ := different.different
  rcases key_of_noSession different.firstSession isOne oneNamed with
    ⟨firstMistaken, firstKey⟩ | ⟨firstRight, firstKey⟩ <;>
  rcases key_of_noSession different.secondSession isAnother anotherNamed with
    ⟨secondMistaken, secondKey⟩ | ⟨secondRight, secondKey⟩
  · simp [firstKey, secondKey, firstMistaken, secondMistaken]
  · simp [firstKey, secondKey, secondRight, key_eq_iff, (kinds _).symm]
  · simp [firstKey, secondKey, firstRight, key_eq_iff, (kinds _).symm]
  · simp only [firstKey, secondKey, firstRight, key_eq_iff, false_and, iff_false, not_exists,
      not_and]
    rintro key ⟨_, rfl⟩ _ same
    exact differ (String.append_right_inj "visitor:" |>.mp same).symm

end Visit

namespace Occurrence

section

variable {occurrence : Occurrence} {scope : Scope} {goal : Goal} {database : Database}

theorem isSome_newRow?_iff :
    (occurrence.newRow? scope goal database).isSome = true ↔
      ∃ draft, occurrence.draft? scope goal = some draft ∧
        ∀ other ∈ database.conversions, ¬draft.SharesKey other := by
  rw [Option.isSome_iff_exists]
  constructor
  · rintro ⟨row, isNew⟩
    obtain ⟨draft, drafted, keyFree, _⟩ := (newRow?_eq_some_iff database row).mp isNew
    exact ⟨draft, drafted, keyFree⟩
  · rintro ⟨draft, drafted, keyFree⟩
    exact ⟨_, (newRow?_eq_some_iff database _).mpr ⟨draft, drafted, keyFree, rfl⟩⟩

theorem isSome_newRow?_insert_iff {before after : List Conversion}
    (held : database.conversions = before ++ after)
    (made : (occurrence.newRow? scope goal database).isSome = true) (extra : Conversion) :
    (occurrence.newRow? scope goal
        { database with conversions := before ++ extra :: after }).isSome = true ↔
      ¬(extra.goalId = goal.id ∧
        ∃ key, extra.dedupeKey = some key ∧ occurrence.key goal = .ok (some key)) := by
  obtain ⟨draft, drafted, keyFree⟩ := isSome_newRow?_iff.mp made
  have fills := draft_fills drafted
  rw [isSome_newRow?_iff]
  constructor
  · rintro ⟨same, sameDrafted, free⟩ ⟨ofGoal, key, extraKey, isKey⟩
    obtain rfl := Option.some.inj (drafted.symm.trans sameDrafted)
    exact free extra (List.mem_append_right before List.mem_cons_self)
      ⟨fills.goalId.trans ofGoal.symm, key, Except.ok.inj (fills.dedupeKey.symm.trans isKey),
        extraKey⟩
  · intro apart
    refine ⟨draft, drafted, ?_⟩
    intro other member shared
    rcases List.mem_append.mp member with inBefore | inRest
    · exact keyFree other (by rw [held]; exact List.mem_append_left after inBefore) shared
    · rcases List.mem_cons.mp inRest with rfl | inAfter
      · obtain ⟨sameGoal, key, draftKey, extraKey⟩ := shared
        exact apart ⟨sameGoal.symm.trans fills.goalId, key, extraKey,
          fills.dedupeKey.trans (congrArg Except.ok draftKey)⟩
      · exact keyFree other (by rw [held]; exact List.mem_append_right before inAfter) shared

theorem newRows_records_iff {goals : List Goal} (distinct : (goals.map (·.id)).Nodup)
    (known : goal ∈ goals) :
    (∃ row ∈ occurrence.newRows scope goals database, row.2.goalId = goal.id) ↔
      (occurrence.newRow? scope goal database).isSome = true := by
  have sameRows : (occurrence.newRows scope goals database).map (·.2.withoutId) = _ :=
    newRows_withoutId distinct
  constructor
  · rintro ⟨row, isNew, ofGoal⟩
    have member := List.mem_map_of_mem (f := (·.2.withoutId)) isNew
    rw [sameRows] at member
    obtain ⟨other, otherKnown, made⟩ := List.mem_filterMap.mp member
    obtain ⟨otherRow, isRow, sameRow⟩ := Option.map_eq_some_iff.mp made
    have sameId : other.id = goal.id := by
      rw [← (newRow?_fills isRow).goalId, ← ofGoal]
      exact (congrArg Conversion.goalId sameRow :)
    obtain rfl := List.inj_on_of_nodup_map distinct otherKnown known sameId
    rw [isRow]
    rfl
  · intro made
    obtain ⟨row, isRow⟩ := Option.isSome_iff_exists.mp made
    have member : row.withoutId ∈ goals.filterMap fun goal =>
        (occurrence.newRow? scope goal database).map (·.withoutId) :=
      List.mem_filterMap.mpr ⟨goal, known, by rw [isRow]; rfl⟩
    rw [← sameRows] at member
    obtain ⟨added, isNew, sameRow⟩ := List.mem_map.mp member
    refine ⟨added, isNew, ?_⟩
    rw [← (newRow?_fills isRow).goalId]
    exact (congrArg Conversion.goalId sameRow :)

end

end Occurrence

namespace Matcher

section

variable {settings : Matcher} {visit : Visit} {database : Database} {goal : Goal}

theorem mem_newRows_of_result (distinct : database.GoalIdsDistinct)
    (known : goal ∈ database.goals) {evaluation : Evaluation}
    (returned : (settings.evaluate visit.trigger visit.session visit.visitor).result database =
      .ok evaluation) {conversion : Conversion} (member : conversion ∈ evaluation.conversions)
    (ofGoal : conversion.goalId = goal.id) :
    ∃ occurrence ∈ visit.occurrence?, goal ∈ database.pool settings.scope occurrence.kind ∧
      (goal, conversion) ∈ occurrence.newRows settings.scope
        (database.pool settings.scope occurrence.kind) database := by
  rw [conversions_of_result settings _ _ _ database returned] at member
  obtain ⟨row, isNew, rfl⟩ := List.mem_map.mp member
  obtain ⟨occurrence, isOccurrence, isNew⟩ := mem_newRows_iff.mp isNew
  obtain ⟨inPool, fills⟩ := Occurrence.newRows_fills isNew
  have rowKnown := ((Database.mem_pool_iff _ _ _ _).mp inPool).1
  obtain rfl := List.inj_on_of_nodup_map distinct rowKnown known (fills.goalId.symm.trans ofGoal)
  exact ⟨occurrence, isOccurrence, inPool, isNew⟩

theorem records_iff_newRow? (distinct : database.GoalIdsDistinct)
    (known : goal ∈ database.goals) :
    visit.Records settings database goal ↔
      ∃ occurrence ∈ visit.occurrence?, goal ∈ database.pool settings.scope occurrence.kind ∧
        (occurrence.newRow? settings.scope goal database).isSome = true := by
  have poolDistinct := Database.pool_idsDistinct distinct settings.scope
  constructor
  · rintro ⟨evaluation, returned, conversion, member, ofGoal⟩
    obtain ⟨occurrence, isOccurrence, inPool, isNew⟩ :=
      mem_newRows_of_result distinct known returned member ofGoal
    refine ⟨occurrence, isOccurrence, inPool, ?_⟩
    exact (Occurrence.newRows_records_iff (poolDistinct _) inPool).mp ⟨_, isNew, ofGoal⟩
  · rintro ⟨occurrence, isOccurrence, inPool, made⟩
    obtain ⟨first, isFirst⟩ := Option.isSome_iff_exists.mp made
    have readable := (Occurrence.newRow?_fills isFirst).scopeReadable
    have returned := result_evaluate_of_occurrence settings visit.trigger visit.session visit.visitor
      database isOccurrence
    rw [readable] at returned
    obtain ⟨row, member, ofGoal⟩ :=
      (Occurrence.newRows_records_iff (poolDistinct _) inPool).mpr made
    refine ⟨_, returned, row.2, ?_, ofGoal⟩
    simp only [Evaluation.ofRows]
    exact List.mem_map_of_mem (mem_newRows_iff.mpr ⟨occurrence, isOccurrence, member⟩)

end

end Matcher

namespace Visit

theorem key_of_occurrence {visit : Visit} {occurrence : Occurrence}
    (isOccurrence : visit.occurrence? = some occurrence) (allowMultiple : Bool) :
    visit.key allowMultiple =
      conversionKey allowMultiple occurrence.sessionId occurrence.visitorId := by
  obtain ⟨isTrigger, isSession, isVisitor⟩ := (Occurrence.of?_eq_some_iff ..).mp isOccurrence
  rw [key, ← isTrigger, ← isSession, ← isVisitor, occurrence.ofSession, occurrence.ofVisitor]
  rfl

theorem Recorded.attributed {visit : Visit} {goal : Goal} {conversion : Conversion}
    (recorded : visit.Recorded goal conversion) :
    ∃ session visitor, visit.trigger.sessionIdentity visit.session = .ok session ∧
      visit.trigger.visitorIdentity visit.visitor = .ok visitor ∧
      Column.text session = .ok conversion.sessionId ∧
      Column.text visitor = .ok conversion.visitorId ∧
      visit.key goal.allowMultiple = .ok conversion.dedupeKey := by
  obtain ⟨settings, database, evaluation, distinct, known, returned, member, ofGoal⟩ := recorded
  obtain ⟨occurrence, isOccurrence, _, isNew⟩ :=
    Matcher.mem_newRows_of_result distinct known returned member ofGoal
  obtain ⟨_, fills⟩ := Occurrence.newRows_fills isNew
  obtain ⟨isTrigger, isSession, isVisitor⟩ := (Occurrence.of?_eq_some_iff ..).mp isOccurrence
  refine ⟨occurrence.sessionId, occurrence.visitorId, ?_, ?_, fills.sessionId, fills.visitorId, ?_⟩
  · rw [← isTrigger, ← isSession, occurrence.ofSession]
  · rw [← isTrigger, ← isVisitor, occurrence.ofVisitor]
  · rw [key_of_occurrence isOccurrence, ← Except.mapError_eq_ok_iff]
    exact fills.dedupeKey

theorem Recorded.records_iff {first second : Visit} {earlier : Goal} {converted : Conversion}
    (recorded : first.Recorded earlier converted) {goal : Goal} (sameId : earlier.id = goal.id)
    {settings : Matcher} {database : Database} (distinct : database.GoalIdsDistinct)
    (known : goal ∈ database.goals) {before after : List Conversion}
    (held : database.conversions = before ++ after)
    (alone : second.Records settings database goal) :
    second.Records settings { database with conversions := before ++ converted :: after } goal ↔
      ¬∃ key, first.key earlier.allowMultiple = .ok (some key) ∧
        second.key goal.allowMultiple = .ok (some key) := by
  obtain ⟨occurrence, isOccurrence, inPool, made⟩ :=
    (Matcher.records_iff_newRow? distinct known).mp alone
  have ofGoal : converted.goalId = goal.id := by
    obtain ⟨_, _, _, _, _, _, _, ofEarlier⟩ := recorded
    exact ofEarlier.trans sameId
  obtain ⟨_, _, _, _, _, _, firstKey⟩ := recorded.attributed
  have secondKey (key : String) : occurrence.key goal = .ok (some key) ↔
      second.key goal.allowMultiple = .ok (some key) := by
    rw [key_of_occurrence isOccurrence, Occurrence.key, Except.mapError_eq_ok_iff]
  have insertIff := Occurrence.isSome_newRow?_insert_iff held made converted
  have crowdedDistinct : Database.GoalIdsDistinct
      { database with conversions := before ++ converted :: after } := distinct
  simp only [Matcher.records_iff_newRow? crowdedDistinct known, firstKey, Except.ok.injEq,
    ← secondKey]
  constructor
  · rintro ⟨other, isOther, _, madeCrowded⟩ shared
    obtain rfl := Option.some.inj (isOccurrence.symm.trans isOther)
    exact insertIff.mp madeCrowded ⟨ofGoal, shared⟩
  · intro apart
    exact ⟨occurrence, isOccurrence, inPool, insertIff.mpr fun shared => apart shared.2⟩

/-- A visit's session and visitor are the first that name someone unless they are mistaken, and the
conversions that are recorded of it bear them. When neither it nor another visit has a session and
their visitors are not the same, a conversion of it does not keep the other from converting a goal
that converts once, unless the sessions of both are mistaken. -/
theorem attributed_iff (visit : Visit) :
    (visit.trigger.sessionIdentity visit.session = visit.namedSession ↔ ¬visit.MistakesSession) ∧
      (visit.trigger.visitorIdentity visit.visitor = visit.namedVisitor ↔
        ¬visit.MistakesVisitor) ∧
      (∀ goal conversion, visit.Recorded goal conversion →
        ∃ session visitor, visit.trigger.sessionIdentity visit.session = .ok session ∧
          visit.trigger.visitorIdentity visit.visitor = .ok visitor ∧
          Column.text session = .ok conversion.sessionId ∧
          Column.text visitor = .ok conversion.visitorId ∧
          visit.key goal.allowMultiple = .ok conversion.dedupeKey) ∧
      ∀ other : Visit, visit.OfDifferentVisitors other →
        ∀ earlier goal converted, earlier.id = goal.id → earlier.allowMultiple = false →
          goal.allowMultiple = false → visit.Recorded earlier converted →
        ∀ (settings : Matcher) (database : Database) (before after : List Conversion),
          database.GoalIdsDistinct → goal ∈ database.goals →
          database.conversions = before ++ after → other.Records settings database goal →
            (other.Records settings
                { database with conversions := before ++ converted :: after } goal ↔
              ¬(visit.MistakesSession ∧ other.MistakesSession)) := by
  refine ⟨visit.sessionIdentity_eq_iff, visit.visitorIdentity_eq_iff,
    fun _ _ recorded => recorded.attributed, ?_⟩
  intro other different earlier goal converted sameId earlierSingle single recorded settings
    database before after distinct known held alone
  rw [recorded.records_iff sameId distinct known held alone, earlierSingle, single,
    different.keys_agree_iff]

def unattended (sessionId visitorId : Value) : Visit where
  trigger := .event ⟨.text "signup", .null, .map [], .null, sessionId, visitorId, .null, .null⟩
  session := .null
  visitor := .null

theorem sessionless_signups_both_recorded :
    let settings : Matcher := ⟨.everything, .made, []⟩
    let database : Database := { Database.empty with goals := [Matcher.signupGoal] }
    let first := unattended .null (.text "v1")
    let second := unattended .null (.text "v2")
    first.OfDifferentVisitors second ∧
      ∃ converted, first.Recorded Matcher.signupGoal converted ∧
        second.Records settings { database with conversions := [converted] }
          Matcher.signupGoal := by
  intro settings database first second
  have different : first.OfDifferentVisitors second :=
    ⟨rfl, rfl, _, _, rfl, rfl, rfl, rfl, by decide⟩
  have distinct : database.GoalIdsDistinct := List.nodup_singleton Matcher.signupGoal.id
  have known : Matcher.signupGoal ∈ database.goals := List.mem_cons_self
  have firstAlone : first.Records settings database Matcher.signupGoal := by decide +kernel
  have secondAlone : second.Records settings database Matcher.signupGoal := by decide +kernel
  obtain ⟨evaluation, returned, converted, member, ofGoal⟩ := firstAlone
  have recorded : first.Recorded Matcher.signupGoal converted :=
    ⟨settings, database, evaluation, distinct, known, returned, member, ofGoal⟩
  refine ⟨different, converted, recorded, ?_⟩
  refine ((attributed_iff first).2.2.2 second different _ _ converted rfl rfl rfl recorded
    settings database [] [] distinct known rfl secondAlone).mpr ?_
  rintro ⟨⟨_, notEmpty⟩, _⟩
  cases notEmpty

/-- The second of two signups with empty session ids is not recorded, though their visitors are not
the same and it would be recorded alone, and a session trigger is of no session at all when an empty
one is said. -/
theorem empty_session_merges_visitors :
    let settings : Matcher := ⟨.everything, .made, []⟩
    let database : Database := { Database.empty with goals := [Matcher.signupGoal] }
    let first := unattended (.text "") (.text "v1")
    let second := unattended (.text "") (.text "v2")
    let ended : Visit :=
      ⟨.session ⟨.text "s1", .int 60, .int 0, .null, .null, .null⟩, .text "", .null⟩
    (first.OfDifferentVisitors second ∧ Matcher.signupGoal.allowMultiple = false ∧
        second.Records settings database Matcher.signupGoal ∧
        ¬second.Records settings
          ((settings.evaluate first.trigger first.session first.visitor).after database)
          Matcher.signupGoal) ∧
      ended.namedSession = .ok (.text "s1") ∧
      ended.trigger.sessionIdentity ended.session = .ok .null := by
  intro settings database first second ended
  have different : first.OfDifferentVisitors second :=
    ⟨rfl, rfl, _, _, rfl, rfl, rfl, rfl, by decide⟩
  refine ⟨⟨different, rfl, ?_, ?_⟩, rfl, rfl⟩
  · decide +kernel
  · decide +kernel

end Visit

end ConversionTracking
