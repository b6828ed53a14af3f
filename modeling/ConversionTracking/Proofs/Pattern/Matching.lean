import ConversionTracking.Pattern.Matching

/-!
Matching a whole text, and the places that a repetition of any characters can reach.
-/

namespace ConversionTracking

namespace Pattern

/-- The whole text is matched: of the ways to match, one ends where the text ends. -/
def matchesWhole (pattern : Pattern) (text : String) : Bool :=
  let subject := text.toList.toArray
  (matchParts subject pattern.modes pattern.body 0 (Array.replicate (2 * pattern.groupCount) none)
    fun position marks => if position = subject.size then some (position, marks) else none).isSome

section Parts

variable (subject : Array Char) {modes : Modes} (marks : Marks) (after : Continuation)

theorem matchChar_eq_some_iff (accepts : Nat → Bool) (position : Nat) (reached : Reached) :
    matchChar subject accepts position marks after = some reached ↔
      ∃ char, subject[position]? = some char ∧ accepts char.toNat = true ∧
        after (position + 1) marks = some reached := by
  rw [matchChar]
  cases subject[position]? with
  | none => simp
  | some char =>
      by_cases accepted : accepts char.toNat = true
      · simp [accepted]
      · simp [accepted]

theorem matchParts_literal_isSome_iff (plain : modes.ignoreCase = false) (char : Char)
    (rest : List Node) (position : Nat) :
    (matchParts subject modes (.literal false char.toNat :: rest) position marks after).isSome ↔
      subject[position]? = some char ∧
        (matchParts subject modes rest (position + 1) marks after).isSome := by
  have literalAccepts_iff (given : Char) :
      (literalAccepts modes char.toNat given.toNat != false) = true ↔ char = given := by
    simp [literalAccepts, plain, Char.toNat_inj]
  simp only [matchParts, matchNode, Option.isSome_iff_exists, matchChar_eq_some_iff,
    literalAccepts_iff]
  constructor
  · rintro ⟨reached, given, isGiven, rfl, isReached⟩
    exact ⟨isGiven, reached, isReached⟩
  · rintro ⟨isGiven, reached, isReached⟩
    exact ⟨reached, char, isGiven, rfl, isReached⟩

theorem matchParts_any (dotAll : modes.dotAll = true) {position : Nat}
    (inside : position < subject.size) :
    matchParts subject modes [.any] position marks after = after (position + 1) marks := by
  simp only [matchParts, matchNode, matchChar, dotAll, Bool.true_or, if_true,
    Array.getElem?_eq_getElem inside]

theorem matchParts_any_of_size_le {position : Nat} (outside : subject.size ≤ position) :
    matchParts subject modes [.any] position marks after = none := by
  simp only [matchParts, matchNode, matchChar, Array.getElem?_eq_none outside]

theorem matchGreedy_any_isSome_iff (dotAll : modes.dotAll = true) {fuel turns position : Nat}
    {last : Option Nat} (inside : position ≤ subject.size)
    (enough : subject.size - position < fuel) (moved : last ≠ some position) :
    (matchGreedy (matchParts subject modes [.any]) 0 none fuel turns last position marks
        after).isSome ↔
      ∃ next, position ≤ next ∧ next ≤ subject.size ∧ (after next marks).isSome := by
  induction fuel generalizing turns last position with
  | zero => omega
  | succ fuel ih =>
      have mayMove : mayRepeat none turns last position = true := by simp [mayRepeat, moved]
      rw [matchGreedy, if_neg (Nat.not_lt_zero turns), if_pos mayMove]
      by_cases isEnd : position = subject.size
      · subst isEnd
        rw [matchParts_any_of_size_le subject marks _ (Nat.le_refl _)]
        constructor
        · intro ends
          exact ⟨_, Nat.le_refl _, Nat.le_refl _, ends⟩
        · rintro ⟨next, isAfter, isInside, ends⟩
          rwa [Nat.le_antisymm isInside isAfter] at ends
      · have hasChar : position < subject.size := by omega
        have further := @ih (turns + 1) (position + 1) (some position) hasChar (by omega) (by simp)
        rw [matchParts_any subject marks _ dotAll hasChar]
        cases more : matchGreedy (matchParts subject modes [.any]) 0 none fuel (turns + 1)
            (some position) (position + 1) marks after with
        | some reached =>
            rw [more] at further
            obtain ⟨next, isAfter, isInside, ends⟩ := further.mp rfl
            exact ⟨fun _ => ⟨next, by omega, isInside, ends⟩, fun _ => rfl⟩
        | none =>
            rw [more] at further
            constructor
            · intro ends
              exact ⟨position, Nat.le_refl _, inside, ends⟩
            · rintro ⟨next, isAfter, isInside, ends⟩
              by_cases isHere : next = position
              · rwa [isHere] at ends
              · have moves := further.mpr ⟨next, by omega, isInside, ends⟩
                cases moves

theorem matchParts_anyRun_isSome_iff (dotAll : modes.dotAll = true) (rest : List Node)
    {position : Nat} (inside : position ≤ subject.size) :
    (matchParts subject modes (.repetition .greedy 0 none [.any] :: rest) position marks
        after).isSome ↔
      ∃ next, position ≤ next ∧ next ≤ subject.size ∧
        (matchParts subject modes rest next marks after).isSome := by
  have enough : subject.size - position < turnLimit subject 0 := by
    rw [turnLimit]
    omega
  rw [matchParts, matchNode]
  exact matchGreedy_any_isSome_iff subject marks _ dotAll inside enough nofun

end Parts

end Pattern

end ConversionTracking
