import ConversionTracking.Proofs.Matching.Identity
import ConversionTracking.Proofs.Operations

/-!
Evaluations that run at the same time. Each takes its steps by itself, a look at the conversions and
an insertion being two of them, and anything may happen between two steps of one evaluation.
-/

namespace ConversionTracking

/-- An evaluation under way: the types whose goals are not read yet, the goals that are not looked
at yet, and the goal whose conversion is to be inserted next. -/
structure Pending where
  settings : Matcher
  occurrence : Occurrence
  types : List GoalType
  goals : List Goal
  due : Option Goal

namespace Pending

def start (settings : Matcher) (occurrence : Occurrence) : Pending :=
  ⟨settings, occurrence, occurrence.kind.goalTypes, [], none⟩

def insertion (pending : Pending) : Work (Option Conversion) :=
  match pending.due with
  | some goal => pending.occurrence.record pending.settings.scope goal
  | none => pure none

def next (pending : Pending) (database : Database) : Pending :=
  match pending.due, pending.goals, pending.types with
  | some _, _, _ => { pending with due := none }
  | none, goal :: rest, _ =>
      match (pending.occurrence.isDue pending.settings.precheck goal).result database with
      | .ok true => { pending with goals := rest, due := some goal }
      | _ => { pending with goals := rest }
  | none, [], goalType :: rest =>
      match database.activeGoalsOfType pending.settings.scope goalType.name with
      | .ok goals => { pending with types := rest, goals }
      | .error _ => { pending with types := [] }
  | none, [], [] => pending

def reread (pending : Pending) (database : Database) : Pending :=
  { pending with
    goals := pending.goals.filterMap fun goal => database.goals.find? (·.id == goal.id) }

end Pending

/-- Two conversions of one goal have a key each and belong to the same session. -/
def Conversion.SharesSession (first second : Conversion) : Prop :=
  first.goalId = second.goalId ∧ first.dedupeKey.isSome ∧ second.dedupeKey.isSome ∧
    ∃ session, first.sessionId = some session ∧ second.sessionId = some session

theorem Conversion.SharesSession.sharesKey {first second : Conversion}
    (shared : first.SharesSession second)
    (ownFirst : ∀ key, first.dedupeKey = some key → first.ownKey = some key)
    (ownSecond : ∀ key, second.dedupeKey = some key → second.ownKey = some key) :
    first.SharesKey second := by
  obtain ⟨sameGoal, keyedFirst, keyedSecond, session, ofFirst, ofSecond⟩ := shared
  obtain ⟨firstKey, isFirst⟩ := Option.isSome_iff_exists.mp keyedFirst
  obtain ⟨secondKey, isSecond⟩ := Option.isSome_iff_exists.mp keyedSecond
  have firstOwn := ownFirst firstKey isFirst
  have secondOwn := ownSecond secondKey isSecond
  simp only [Conversion.ownKey, ofFirst, Option.some.injEq] at firstOwn
  simp only [Conversion.ownKey, ofSecond, Option.some.injEq] at secondOwn
  exact ⟨sameGoal, firstKey, isFirst, by rw [isSecond, ← secondOwn, firstOwn]⟩

/-- The database, the evaluations under way, and what evaluations have recorded. -/
structure System where
  database : Database
  pending : List Pending
  recorded : List Recording

inductive Action where
  | perform (operation : Operation)
  | start (settings : Matcher) (trigger : Trigger) (session visitor : Value)
  | advance (position : Nat)
  | reread (position : Nat)

namespace System

def empty (ids : IdDraw := .lowest) : System := ⟨.empty ids, [], []⟩

def step (system : System) : Action → System
  | .perform operation =>
      { system with
        database := operation.after system.database
        recorded := system.recorded ++ operation.recorded system.database }
  | .start settings trigger session visitor =>
      { system with
        pending := system.pending ++
          ((Occurrence.of? trigger session visitor).map (Pending.start settings)).toList }
  | .advance position =>
      match system.pending[position]? with
      | none => system
      | some pending =>
          { database := pending.insertion.after system.database
            pending := system.pending.set position (pending.next system.database)
            recorded := system.recorded ++
              (Conversions.stored? (pending.insertion.result system.database)).toList.map
                (⟨pending.occurrence, ·⟩) }
  | .reread position =>
      { system with pending := system.pending.modify position (·.reread system.database) }

def run (system : System) (actions : List Action) : System := actions.foldl step system

/-- What every step preserves. What was recorded is in the database, in the order of recording. -/
structure Sound (system : System) : Prop where
  keysUnique : system.database.KeysUnique
  kept : (system.recorded.map (·.conversion)).Sublist system.database.conversions
  filled : ∀ recording ∈ system.recorded,
    ∃ scope goal, recording.occurrence.Fills scope goal recording.conversion

theorem sound_empty (ids : IdDraw) : (empty ids).Sound where
  keysUnique := Database.keysUnique_empty ids
  kept := List.Sublist.refl []
  filled := by simp [empty]

theorem Sound.grow {system : System} (sound : system.Sound) {changed : Database}
    {pending : List Pending} {added : List Conversion} {recorded : List Recording}
    (unique : changed.KeysUnique)
    (grown : changed.conversions = system.database.conversions ++ added)
    (kept : (recorded.map (·.conversion)).Sublist added)
    (filled : ∀ recording ∈ recorded,
      ∃ scope goal, recording.occurrence.Fills scope goal recording.conversion) :
    Sound ⟨changed, pending, system.recorded ++ recorded⟩ where
  keysUnique := unique
  kept := by
    rw [List.map_append, grown]
    exact sound.kept.append kept
  filled := by
    intro recording member
    rcases List.mem_append.mp member with old | new
    · exact sound.filled recording old
    · exact filled recording new

theorem sound_advance {system : System} (sound : system.Sound) (position : Nat) :
    (system.step (.advance position)).Sound := by
  simp only [step]
  cases system.pending[position]? with
  | none => exact sound
  | some pending =>
      cases due : pending.due with
      | none =>
          simp only [Pending.insertion, due, Work.after_pure, Work.result_pure,
            Conversions.stored?, Option.toList_none, List.map_nil, List.append_nil]
          exact ⟨sound.keysUnique, sound.kept, sound.filled⟩
      | some goal =>
          simp only [Pending.insertion, due]
          refine sound.grow (Occurrence.keysUnique_record sound.keysUnique)
            (congrArg Database.conversions (Occurrence.after_record _ _ goal system.database)) ?_ ?_
          · simp [Function.comp_def]
          · intro recording member
            obtain ⟨row, stored, rfl⟩ := List.mem_map.mp member
            have returned :=
              (Conversions.stored?_eq_some_iff _ row).mp (Option.mem_toList.mp stored)
            exact ⟨_, goal, Occurrence.record_fills returned⟩

theorem step_sound {system : System} (sound : system.Sound) (action : Action) :
    (system.step action).Sound := by
  cases action with
  | perform operation =>
      exact sound.grow (operation.keysUnique_after sound.keysUnique)
        (operation.conversions_after system.database) (operation.recorded_sublist system.database)
        fun _ isRecorded => Operation.recorded_fills isRecorded
  | start settings trigger session visitor => exact ⟨sound.keysUnique, sound.kept, sound.filled⟩
  | advance position => exact sound_advance sound position
  | reread position => exact ⟨sound.keysUnique, sound.kept, sound.filled⟩

theorem run_sound {system : System} (sound : system.Sound) (actions : List Action) :
    (system.run actions).Sound := by
  induction actions generalizing system with
  | nil => exact sound
  | cons action rest ih => exact ih (step_sound sound action)

/-- Whatever runs at the same time, no two conversions of a goal have the same key, and evaluations
of triggers whose ids are texts record every key as that of the conversion's session, else of its
visitor, and never two conversions of a goal with keys for one session. -/
theorem run_keys_unique (ids : IdDraw) (actions : List Action) :
    let system := (empty ids).run actions
    system.database.KeysUnique ∧
      (∀ recording ∈ system.recorded, recording.occurrence.trigger.HasTextIds →
        ∀ key, recording.conversion.dedupeKey = some key →
          recording.conversion.ownKey = some key) ∧
      system.recorded.Pairwise fun first second =>
        first.occurrence.trigger.HasTextIds → second.occurrence.trigger.HasTextIds →
          ¬first.conversion.SharesSession second.conversion := by
  intro system
  have sound : system.Sound := run_sound (sound_empty ids) actions
  have own : ∀ recording ∈ system.recorded, recording.occurrence.trigger.HasTextIds →
      ∀ key, recording.conversion.dedupeKey = some key →
        recording.conversion.ownKey = some key := by
    intro recording member textIds key keyed
    obtain ⟨scope, goal, fills⟩ := sound.filled recording member
    exact fills.ownKey textIds keyed
  refine ⟨sound.keysUnique, own, ?_⟩
  have keysDiffer : system.recorded.Pairwise fun first second =>
      ¬first.conversion.SharesKey second.conversion :=
    List.pairwise_map.mp (sound.keysUnique.sublist sound.kept)
  refine keysDiffer.imp_of_mem ?_
  intro first second firstMember secondMember differ firstText secondText shared
  exact differ (shared.sharesKey (own first firstMember firstText)
    (own second secondMember secondText))

/-- Two evaluations both find no conversion before either inserts one. One of them records it. -/
example :
    let goal : Entries := [(.text "name", .text "Signup"), (.text "type", .text "event"),
      (.text "conditions", .map [(.text "event_name", .text "signup")])]
    let signup : Trigger := .event ⟨.text "signup", .null, .null, .null, .null, .null, .null, .null⟩
    let start : Action := .start ⟨.everything, .made, []⟩ signup (.text "s") .null
    let system := empty.run
      [.perform (.service .everything (.create goal)), start, start, .advance 0, .advance 1,
        .advance 0, .advance 1, .advance 0, .advance 1]
    system.recorded.map (·.conversion.dedupeKey) = [some "session:s"] ∧
      system.database.conversions.length = 1 := by
  decide +kernel

end System

end ConversionTracking
