import ConversionTracking.Proofs.Matching.Interleaving

/-!
An evaluation under way that nothing interrupts does step by step what an evaluation does at once.
-/

namespace ConversionTracking

namespace System

def Reaches (position : Nat) (before after : System) : Prop :=
  ∃ count, before.run (List.replicate count (.advance position)) = after

def progress (system : System) (position : Nat) (pending : Pending)
    (rows : List (Goal × Conversion)) : System where
  database := system.database.withConversions (rows.map Prod.snd)
  pending := system.pending.set position pending
  recorded := system.recorded ++ rows.map fun row => ⟨pending.occurrence, row.2⟩

theorem Reaches.trans {position : Nat} {first second third : System}
    (before : Reaches position first second) (after : Reaches position second third) :
    Reaches position first third := by
  obtain ⟨early, rfl⟩ := before
  obtain ⟨late, rfl⟩ := after
  refine ⟨early + late, ?_⟩
  rw [← List.replicate_append_replicate, run, List.foldl_append]
  rfl

section

variable {system : System} {position : Nat} {pending : Pending}

theorem progress_nil (here : system.pending[position]? = some pending) :
    system.progress position pending [] = system := by
  obtain ⟨bound, same⟩ := List.getElem?_eq_some_iff.mp here
  simp [progress, ← same]

theorem database_progress_nil (pending : Pending) :
    (system.progress position pending []).database = system.database := by
  simp [progress]

theorem Reaches.append {later : Pending} {first second : List (Goal × Conversion)}
    (before : Reaches position system (system.progress position pending first))
    (after : Reaches position (system.progress position pending first)
      ((system.progress position pending first).progress position later second))
    (same : later.occurrence = pending.occurrence) :
    Reaches position system (system.progress position later (first ++ second)) := by
  have together : (system.progress position pending first).progress position later second =
      system.progress position later (first ++ second) := by
    simp [progress, Database.withConversions_append, same]
  rw [← together]
  exact before.trans after

theorem pending_progress (here : system.pending[position]? = some pending) (later : Pending)
    (rows : List (Goal × Conversion)) :
    (system.progress position later rows).pending[position]? = some later := by
  obtain ⟨bound, _⟩ := List.getElem?_eq_some_iff.mp here
  simp [progress, bound]

theorem reaches_reading (here : system.pending[position]? = some pending)
    (reading : pending.due = none) :
    Reaches position system (system.progress position (pending.next system.database) []) := by
  refine ⟨1, ?_⟩
  simp [run, step, here, progress, Pending.insertion, reading, Conversions.stored?]

theorem reaches_inserting {goal : Goal} (here : system.pending[position]? = some pending)
    (due : pending.due = some goal)
    (satisfied : (goal.isSatisfiedBy pending.occurrence.trigger).result = .ok true) :
    Reaches position system (system.progress position { pending with due := none }
      (pending.occurrence.newRows pending.settings.scope [goal] system.database)) := by
  refine ⟨1, ?_⟩
  have stored := Occurrence.stored?_record pending.settings.scope system.database satisfied
  have left := Occurrence.after_record pending.occurrence pending.settings.scope goal
    system.database
  rw [stored] at left
  simp only [List.replicate_one, run, List.foldl_cons, List.foldl_nil, step, here, progress,
    Pending.insertion, Pending.next, due, left, stored, Occurrence.newRows]
  cases pending.occurrence.newRow? pending.settings.scope goal system.database <;> rfl

end

variable {position : Nat} (settings : Matcher) (occurrence : Occurrence)

theorem reaches_goal (types : List GoalType) (goal : Goal) (rest : List Goal) {system : System}
    (here : system.pending[position]? = some ⟨settings, occurrence, types, goal :: rest, none⟩) :
    Reaches position system (system.progress position ⟨settings, occurrence, types, rest, none⟩
      (occurrence.newRows settings.scope [goal] system.database)) := by
  have looked := reaches_reading here rfl
  by_cases due : (occurrence.isDue settings.precheck goal).result system.database = .ok true
  · let inserting : Pending := ⟨settings, occurrence, types, rest, some goal⟩
    have next : Pending.next ⟨settings, occurrence, types, goal :: rest, none⟩ system.database =
        inserting := by
      simp only [Pending.next, due, inserting]
    rw [next] at looked
    have satisfied : (goal.isSatisfiedBy inserting.occurrence.trigger).result = .ok true :=
      Occurrence.satisfied_of_due due
    have inserted := reaches_inserting (pending_progress here inserting []) rfl satisfied
    rw [database_progress_nil] at inserted
    exact looked.append inserted rfl
  · have nothing : occurrence.newRows settings.scope [goal] system.database = [] := by
      simp [Occurrence.newRows, Occurrence.newRow?_of_not_due settings.precheck due]
    have next : Pending.next ⟨settings, occurrence, types, goal :: rest, none⟩ system.database =
        ⟨settings, occurrence, types, rest, none⟩ := by
      simp only [Pending.next]
    rw [next] at looked
    rw [nothing]
    exact looked

theorem reaches_goals (types : List GoalType) (goals : List Goal) {system : System}
    (here : system.pending[position]? = some ⟨settings, occurrence, types, goals, none⟩) :
    Reaches position system (system.progress position ⟨settings, occurrence, types, [], none⟩
      (occurrence.newRows settings.scope goals system.database)) := by
  induction goals generalizing system with
  | nil =>
      refine ⟨0, ?_⟩
      exact (progress_nil here).symm
  | cons goal rest ih =>
      have first := reaches_goal settings occurrence types goal rest here
      have others := ih (pending_progress here ⟨settings, occurrence, types, rest, none⟩
        (occurrence.newRows settings.scope [goal] system.database))
      have split := occurrence.newRows_append settings.scope [goal] rest system.database
      rw [List.singleton_append] at split
      rw [split]
      exact first.append others rfl

theorem reaches_types (types : List GoalType) (readable : settings.scope.check = .ok ())
    {system : System}
    (here : system.pending[position]? = some ⟨settings, occurrence, types, [], none⟩) :
    Reaches position system (system.progress position ⟨settings, occurrence, [], [], none⟩
      (occurrence.newRows settings.scope
        (types.flatMap (system.database.typePool settings.scope)) system.database)) := by
  induction types generalizing system with
  | nil =>
      refine ⟨0, ?_⟩
      exact (progress_nil here).symm
  | cons goalType rest ih =>
      let goals := system.database.typePool settings.scope goalType
      have read := reaches_reading here rfl
      have next : Pending.next ⟨settings, occurrence, goalType :: rest, [], none⟩
          system.database = ⟨settings, occurrence, rest, goals, none⟩ := by
        simp only [Pending.next, Database.activeGoalsOfType_eq readable, goals]
      rw [next] at read
      have looked := reaches_goals settings occurrence rest goals
        (pending_progress here ⟨settings, occurrence, rest, goals, none⟩ [])
      rw [database_progress_nil] at looked
      have first := read.append looked rfl
      rw [List.nil_append] at first
      have others := ih (pending_progress here ⟨settings, occurrence, rest, [], none⟩
        (occurrence.newRows settings.scope goals system.database))
      rw [List.flatMap_cons, Occurrence.newRows_append]
      exact first.append others rfl

theorem reaches_unreadable (goalType : GoalType) (rest : List GoalType) {fault : Fault}
    (unreadable : settings.scope.check = .error fault) {system : System}
    (here : system.pending[position]? =
      some ⟨settings, occurrence, goalType :: rest, [], none⟩) :
    Reaches position system (system.progress position ⟨settings, occurrence, [], [], none⟩ []) := by
  have read := reaches_reading here rfl
  have failed : system.database.activeGoalsOfType settings.scope goalType.name = .error fault := by
    rw [Database.activeGoalsOfType, unreadable]
    rfl
  have next : Pending.next ⟨settings, occurrence, goalType :: rest, [], none⟩ system.database =
      ⟨settings, occurrence, [], [], none⟩ := by
    simp only [Pending.next, failed]
  rw [next] at read
  exact read

theorem reaches_end {system : System}
    (here : system.pending[position]? = some (Pending.start settings occurrence)) :
    Reaches position system (system.progress position ⟨settings, occurrence, [], [], none⟩
      (occurrence.newRows settings.scope (system.database.pool settings.scope occurrence.kind)
        system.database)) := by
  cases readable : settings.scope.check with
  | ok _ => exact reaches_types settings occurrence occurrence.kind.goalTypes readable here
  | error fault =>
      rw [Matcher.newRows_of_unreadable occurrence readable]
      unfold Pending.start at here
      cases kind : occurrence.kind with
      | event =>
          rw [kind] at here
          exact reaches_unreadable settings occurrence .event [] readable here
      | pageView =>
          rw [kind] at here
          exact reaches_unreadable settings occurrence .pageView [] readable here
      | session =>
          rw [kind] at here
          exact reaches_unreadable settings occurrence .duration [.pagesPerSession] readable here

/-- A started evaluation that takes all its steps with nothing between them leaves the database and
records what a whole evaluation does. -/
theorem start_uninterrupted (system : System) (settings : Matcher) (trigger : Trigger)
    (session visitor : Value) :
    let whole : Operation := .evaluate settings trigger session visitor
    ∃ count, let final := system.run (.start settings trigger session visitor ::
        List.replicate count (.advance system.pending.length))
      final.database = whole.after system.database ∧
        final.recorded = system.recorded ++ whole.recorded system.database := by
  intro whole
  have left : whole.after system.database = system.database.withConversions
      ((settings.newRows trigger session visitor system.database).map Prod.snd) :=
    settings.after_evaluate trigger session visitor system.database
  have recorded := Operation.recorded_evaluate settings trigger session visitor system.database
  cases known : Occurrence.of? trigger session visitor with
  | none =>
      refine ⟨0, ?_⟩
      simp only [known, Matcher.newRows] at left recorded
      simp [whole, run, step, known, left, recorded]
  | some occurrence =>
      let started := system.step (.start settings trigger session visitor)
      have here : started.pending[system.pending.length]? =
          some (Pending.start settings occurrence) := by
        simp [started, step, known]
      obtain ⟨count, ran⟩ := reaches_end settings occurrence here
      refine ⟨count, ?_⟩
      simp only [known, Matcher.newRows] at left recorded
      rw [run, List.foldl_cons, ← run, ran, left, recorded]
      exact ⟨rfl, rfl⟩

end System

end ConversionTracking
