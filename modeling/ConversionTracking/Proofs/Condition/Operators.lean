import ConversionTracking.Proofs.Condition.Evaluation

/-!
Conditions of one operator: which operator a name stands for, and what has to be true of the observed
value and the target for it to let the value pass. What an operator fails with lets nothing pass.
-/

namespace ConversionTracking

namespace Value

inductive Collects : Value → List Value → Prop where
  | list (items : List Value) : Collects (.list items) items
  | tuple (items : List Value) : Collects (.tuple items) items
  | set (items : List Value) : Collects (.set items) items

end Value

namespace Operator

def name : Operator → String
  | .eq => "eq"
  | .neq => "neq"
  | .gt => "gt"
  | .lt => "lt"
  | .gte => "gte"
  | .lte => "lte"
  | .contains => "contains"
  | .startsWith => "starts_with"
  | .endsWith => "ends_with"
  | .isIn => "in"
  | .notIn => "not_in"
  | .regex => "regex"

theorem ofName?_eq_some_iff (text : String) (operator : Operator) :
    ofName? text = some operator ↔ text = operator.name := by
  constructor
  · intro isOperator
    unfold ofName? at isOperator
    split at isOperator <;> cases isOperator <;> rfl
  · rintro rfl
    cases operator <;> rfl

theorem result_numbers_eq_ok_iff (result : Except NumberFault Bool) (answer : Bool) :
    (numbers result).result = .ok answer ↔ result = .ok answer := by
  cases result <;> simp [numbers, Except.mapError]

theorem map_not_eq_ok_true_iff (result : Except NumberFault Bool) :
    result.map (!·) = .ok true ↔ result = .ok false := by
  cases result <;> simp [Except.map]

theorem candidates?_eq_some_iff (target : Value) (items : List Value) :
    candidates? target = some items ↔ target.Collects items := by
  constructor
  · intro areItems
    cases target with
    | list _ =>
        cases areItems
        exact .list items
    | tuple _ =>
        cases areItems
        exact .tuple items
    | set _ =>
        cases areItems
        exact .set items
    | _ => cases areItems
  · rintro ⟨⟩ <;> rfl

theorem anyEqual_eq_true_iff (observed : Value) (candidates : List Value) :
    anyEqual observed candidates = .ok true ↔
      ∃ before candidate after, candidates = before ++ candidate :: after ∧
        (∀ earlier ∈ before, ∃ answer, observed.looseEquals earlier = .ok answer) ∧
        observed.looseEquals candidate = .ok true := by
  induction candidates with
  | nil => simp [anyEqual]
  | cons first rest ih =>
      rw [anyEqual, Except.bind_eq_ok_iff]
      constructor
      · rintro ⟨answer, isAnswer, goesOn⟩
        cases answer with
        | true => exact ⟨[], first, rest, rfl, by simp, isAnswer⟩
        | false =>
            obtain ⟨before, candidate, after, rfl, answered, same⟩ := ih.mp goesOn
            exact ⟨first :: before, candidate, after, rfl,
              List.forall_mem_cons.mpr ⟨⟨false, isAnswer⟩, answered⟩, same⟩
      · rintro ⟨before, candidate, after, isSplit, answered, same⟩
        cases before with
        | nil =>
            obtain ⟨rfl, rfl⟩ := List.cons.inj isSplit
            exact ⟨true, same, rfl⟩
        | cons earlier before =>
            obtain ⟨rfl, rfl⟩ := List.cons.inj isSplit
            obtain ⟨⟨answer, isAnswer⟩, restAnswered⟩ := List.forall_mem_cons.mp answered
            refine ⟨answer, isAnswer, ?_⟩
            cases answer with
            | true => rfl
            | false => exact ih.mpr ⟨before, candidate, after, rfl, restAnswered, same⟩

theorem anyEqual_eq_false_iff (observed : Value) (candidates : List Value) :
    anyEqual observed candidates = .ok false ↔
      ∀ candidate ∈ candidates, observed.looseEquals candidate = .ok false := by
  induction candidates with
  | nil => simp [anyEqual]
  | cons first rest ih =>
      rw [anyEqual, Except.bind_eq_ok_iff, List.forall_mem_cons, ← ih]
      constructor
      · rintro ⟨answer, isAnswer, goesOn⟩
        cases answer with
        | true => cases goesOn
        | false => exact ⟨isAnswer, goesOn⟩
      · rintro ⟨isAnswer, goesOn⟩
        exact ⟨false, isAnswer, goesOn⟩

theorem onNumbers_eq_ok_true_iff (compare : Binary64 → Binary64 → Bool) (observed target : Value) :
    onNumbers compare observed target = .ok true ↔
      ∃ left right, observed.toNumber = .ok (some left) ∧ target.toNumber = .ok (some right) ∧
        compare left right = true := by
  constructor
  · intro holds
    obtain ⟨left, observedRead, goesOn⟩ := Except.bind_eq_ok_iff.mp holds
    obtain ⟨right, targetRead, isCompared⟩ := Except.bind_eq_ok_iff.mp goesOn
    match left, right with
    | some left, some right =>
        exact ⟨left, right, observedRead, targetRead, Except.ok.inj isCompared⟩
    | some _, none | none, _ => cases isCompared
  · rintro ⟨left, right, observedRead, targetRead, holds⟩
    rw [onNumbers, observedRead, targetRead, ← holds]
    rfl

end Operator

namespace Value

def Passes (observed name target : Value) : Prop :=
  (meets observed (.map [(name, target)])).result = .ok true

theorem result_meets_single (observed name target : Value) :
    (meets observed (.map [(name, target)])).result = (operatorHolds observed name target).result := by
  have unfolded : meets observed (.map [(name, target)]) =
      operatorsHold observed [(name, target)] := rfl
  rw [unfolded, operatorsHold, Outcome.result_bind]
  cases (operatorHolds observed name target).result with
  | error fault => rfl
  | ok answer => cases answer <;> rfl

theorem operatorHolds_known (observed target : Value) (operator : Operator) :
    operatorHolds observed (.text operator.name) target =
      (operator.holds observed target).recover fun _ => do
        Outcome.note .operatorFailed
        return false := by
  have isOperator := (Operator.ofName?_eq_some_iff operator.name operator).mpr rfl
  rw [operatorHolds, text?, Option.bind_some, isOperator]

section

variable (observed target : Value)

theorem passes_iff (operator : Operator) :
    observed.Passes (.text operator.name) target ↔
      (operator.holds observed target).result = .ok true := by
  rw [Passes, result_meets_single, operatorHolds_known, Outcome.result_recover]
  cases (operator.holds observed target).result <;> simp [Outcome.result_bind]

theorem passes_eq_iff :
    observed.Passes (.text "eq") target ↔ observed.looseEquals target = .ok true :=
  (passes_iff observed target .eq).trans (Operator.result_numbers_eq_ok_iff _ _)

theorem passes_neq_iff :
    observed.Passes (.text "neq") target ↔ observed.looseEquals target = .ok false :=
  calc observed.Passes (.text "neq") target
    _ ↔ (Operator.neq.holds observed target).result = .ok true := passes_iff observed target .neq
    _ ↔ (observed.looseEquals target).map (!·) = .ok true := Operator.result_numbers_eq_ok_iff _ _
    _ ↔ observed.looseEquals target = .ok false := Operator.map_not_eq_ok_true_iff _

theorem passes_number_iff {operator : Operator} {compare : Binary64 → Binary64 → Bool}
    (isNumeric : operator.holds observed target =
      Operator.numbers (Operator.onNumbers compare observed target)) :
    observed.Passes (.text operator.name) target ↔
      ∃ left right, observed.toNumber = .ok (some left) ∧ target.toNumber = .ok (some right) ∧
        compare left right = true := by
  rw [passes_iff, isNumeric, Operator.result_numbers_eq_ok_iff, Operator.onNumbers_eq_ok_true_iff]

theorem passes_gt_iff :
    observed.Passes (.text "gt") target ↔
      ∃ left right, observed.toNumber = .ok (some left) ∧ target.toNumber = .ok (some right) ∧
        right.less left = true :=
  @passes_number_iff observed target .gt _ rfl

theorem passes_lt_iff :
    observed.Passes (.text "lt") target ↔
      ∃ left right, observed.toNumber = .ok (some left) ∧ target.toNumber = .ok (some right) ∧
        left.less right = true :=
  @passes_number_iff observed target .lt _ rfl

theorem passes_gte_iff :
    observed.Passes (.text "gte") target ↔
      ∃ left right, observed.toNumber = .ok (some left) ∧ target.toNumber = .ok (some right) ∧
        right.lessOrEqual left = true :=
  @passes_number_iff observed target .gte _ rfl

theorem passes_lte_iff :
    observed.Passes (.text "lte") target ↔
      ∃ left right, observed.toNumber = .ok (some left) ∧ target.toNumber = .ok (some right) ∧
        left.lessOrEqual right = true :=
  @passes_number_iff observed target .lte _ rfl

theorem passes_isIn_iff :
    observed.Passes (.text "in") target ↔
      ∃ items, target.Collects items ∧ observed ≠ .null ∧
        Operator.anyEqual observed items = .ok true := by
  refine (passes_iff observed target .isIn).trans ?_
  rw [Operator.holds]
  simp only [← Operator.candidates?_eq_some_iff]
  cases Operator.candidates? target with
  | none => simp
  | some items =>
      by_cases isMissing : observed = .null
      · simp [isMissing, isNull]
      · simp [isMissing, isNull_eq_false isMissing, Operator.result_numbers_eq_ok_iff]

theorem passes_notIn_iff :
    observed.Passes (.text "not_in") target ↔
      ∃ items, target.Collects items ∧ Operator.anyEqual observed items = .ok false := by
  refine (passes_iff observed target .notIn).trans ?_
  rw [Operator.holds]
  simp only [← Operator.candidates?_eq_some_iff]
  cases Operator.candidates? target with
  | none => simp
  | some items => simp [Operator.result_numbers_eq_ok_iff, Operator.map_not_eq_ok_true_iff]

end

theorem exists_operator_of_passes {observed name target : Value}
    (passes : observed.Passes name target) : ∃ operator : Operator, name = .text operator.name := by
  rw [Passes, result_meets_single, operatorHolds] at passes
  cases isOperator : name.text?.bind Operator.ofName? with
  | none =>
      rw [isOperator] at passes
      cases isWritable : name.isWritable <;> simp [isWritable] at passes
  | some operator =>
      obtain ⟨text, isText, isNamed⟩ := Option.bind_eq_some_iff.mp isOperator
      rw [(text?_eq_some_iff name text).mp isText,
        (Operator.ofName?_eq_some_iff text operator).mp isNamed]
      exact ⟨operator, rfl⟩

end Value

end ConversionTracking
