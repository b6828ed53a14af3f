import ConversionTracking.Store.Goals

/-!
Scopes: the numbers that their columns hold, and the goals within them.
-/

namespace ConversionTracking

def IsWord (number : Int) : Prop := -0x8000000000000000 ≤ number ∧ number < 0x8000000000000000

instance (number : Int) : Decidable (IsWord number) := inferInstanceAs (Decidable (_ ∧ _))

theorem checkWord_of_isWord {number : Int} (isWord : IsWord number) : checkWord number = .ok () :=
  if_pos isWord

theorem checkWord_of_not_isWord {number : Int} (isLarge : ¬IsWord number) :
    checkWord number = .error .beyondColumn := if_neg isLarge

namespace Scope

def FitsWord (scope : Scope) : Prop :=
  ∀ site, scope.siteId = some site → -0x8000000000000000 ≤ site ∧ site < 0x8000000000000000

theorem check_of_fits {scope : Scope} (fits : scope.FitsWord) : scope.check = .ok () := by
  unfold check
  cases site : scope.siteId with
  | none => rfl
  | some number => exact if_pos (fits number site)

theorem check_of_not_fits {scope : Scope} (tooLarge : ¬scope.FitsWord) :
    scope.check = .error .beyondColumn := by
  unfold check
  cases site : scope.siteId with
  | none => exact absurd (fun _ given => by simp [site] at given) tooLarge
  | some number =>
      refine if_neg fun inWord => tooLarge fun other given => ?_
      obtain rfl := Option.some.inj (site.symm.trans given)
      exact inWord

theorem fitsWord_of_check {scope : Scope} (checked : scope.check = .ok ()) : scope.FitsWord := by
  by_cases fits : scope.FitsWord
  · exact fits
  · rw [check_of_not_fits fits] at checked
    contradiction

theorem fitsWord_everything : FitsWord .everything := by
  intro site isSite
  contradiction

theorem admits_iff {α : Type} [DecidableEq α] (wanted actual : Option α) :
    admits wanted actual = true ↔
      ∀ value, wanted = some value → actual = some value ∨ actual = none := by
  cases wanted with
  | none => simp [admits]
  | some value =>
      cases actual with
      | none => simp [admits]
      | some held =>
          simp only [admits, Option.isNone_some, Bool.or_self, Bool.false_or, beq_iff_eq,
            Option.some.injEq, reduceCtorEq, or_false, forall_eq']
          exact eq_comm

end Scope

/-- The site of the goal is the scope's or none, where the scope has one, and so is its tenant. -/
structure Goal.IsWithin (goal : Goal) (scope : Scope) : Prop where
  site : ∀ site, scope.siteId = some site → goal.siteId = some site ∨ goal.siteId = none
  tenant : ∀ tenant, scope.tenantId = some tenant →
    goal.tenantId = some tenant ∨ goal.tenantId = none

theorem Goal.isVisible_iff (goal : Goal) (scope : Scope) :
    goal.isVisible scope = true ↔ goal.IsWithin scope := by
  rw [isVisible, Scope.sees, Bool.and_eq_true, Scope.admits_iff, Scope.admits_iff]
  exact ⟨fun seen => ⟨seen.1, seen.2⟩, fun within => ⟨within.site, within.tenant⟩⟩

instance (goal : Goal) (scope : Scope) : Decidable (goal.IsWithin scope) :=
  decidable_of_iff _ (goal.isVisible_iff scope)

theorem Goal.isWithin_everything (goal : Goal) : goal.IsWithin .everything :=
  (goal.isVisible_iff .everything).mp rfl

namespace Database

variable {database : Database} {scope : Scope} {goal : Goal}

theorem mem_visibleGoals_iff :
    goal ∈ database.visibleGoals scope ↔ goal ∈ database.goals ∧ goal.IsWithin scope := by
  rw [visibleGoals, List.mem_filter, Goal.isVisible_iff]

theorem findGoal_of_fits (fits : scope.FitsWord) {id : Int} (isWord : IsWord id) :
    database.findGoal scope id = .ok ((database.visibleGoals scope).find? (·.id == id)) := by
  rw [findGoal, Scope.check_of_fits fits, checkWord_of_isWord isWord]
  rfl

theorem findGoal_of_not_fits (database : Database) {scope : Scope} {id : Int}
    (beyond : ¬(scope.FitsWord ∧ IsWord id)) :
    database.findGoal scope id = .error .beyondColumn := by
  rw [findGoal]
  by_cases fits : scope.FitsWord
  · have isLarge : ¬IsWord id := fun isWord => beyond ⟨fits, isWord⟩
    rw [Scope.check_of_fits fits, checkWord_of_not_isWord isLarge]
    rfl
  · rw [Scope.check_of_not_fits fits]
    rfl

end Database

end ConversionTracking
