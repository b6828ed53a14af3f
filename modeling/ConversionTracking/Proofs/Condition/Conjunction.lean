import ConversionTracking.Proofs.Condition.Operators

/-!
Conditions of several operators. Such a condition is met just when each of its operators lets the
observed value pass on its own, in whatever order they stand and whatever some of them fail with. A
missing value passes the negations and the comparison with null.
-/

namespace ConversionTracking

namespace Value

theorem meets_operators (observed : Value) {entries : List (Value × Value)} (given : entries ≠ []) :
    meets observed (.map entries) = operatorsHold observed entries := by
  cases entries with
  | nil => exact absurd rfl given
  | cons entry rest => rfl

theorem result_operatorsHold_iff (observed : Value) (entries : List (Value × Value)) :
    (operatorsHold observed entries).result = .ok true ↔
      ∀ entry ∈ entries, observed.Passes entry.1 entry.2 := by
  induction entries with
  | nil => simp [operatorsHold]
  | cons entry rest ih =>
      obtain ⟨name, target⟩ := entry
      rw [operatorsHold, Outcome.bind_eq_ok_iff, List.forall_mem_cons, ← ih, Passes,
        result_meets_single]
      constructor
      · rintro ⟨answer, isAnswer, goesOn⟩
        cases answer with
        | true => exact ⟨isAnswer, goesOn⟩
        | false => cases goesOn
      · rintro ⟨holds, goesOn⟩
        exact ⟨true, holds, goesOn⟩

theorem exists_answers (observed : Value) {entries : List (Value × Value)}
    (areWritable : ∀ entry ∈ entries, ¬entry.1.HoldsLongWhole) :
    ∃ answers : List Bool,
      List.Forall₂ (fun entry answer => (meets observed (.map [entry])).result = .ok answer)
        entries answers ∧
      (operatorsHold observed entries).result = .ok (answers.all id) := by
  induction entries with
  | nil => exact ⟨[], .nil, rfl⟩
  | cons entry rest ih =>
      obtain ⟨name, target⟩ := entry
      obtain ⟨isWritable, restWritable⟩ := List.forall_mem_cons.mp areWritable
      obtain ⟨answer, isAnswer⟩ := (operatorHolds_isOk_iff observed name target).mpr isWritable
      obtain ⟨answers, areAnswers, conjoined⟩ := ih restWritable
      refine ⟨answer :: answers, .cons ((result_meets_single _ _ _).trans isAnswer) areAnswers, ?_⟩
      rw [operatorsHold, Outcome.result_bind, isAnswer]
      cases answer with
      | true => exact conjoined
      | false => rfl

/-- What a missing value passes: the comparison with null, its negation for anything else, and not
being in a collection without null. -/
inductive PassesMissing : Value → Value → Prop where
  | eq : PassesMissing (.text "eq") .null
  | neq {target : Value} (given : target ≠ .null) : PassesMissing (.text "neq") target
  | notIn {target : Value} {items : List Value} (collects : target.Collects items)
      (noNull : .null ∉ items) : PassesMissing (.text "not_in") target

theorem isNull_iff (value : Value) : value.isNull = true ↔ value = .null := by
  cases value <;> simp [isNull]

theorem looseEquals_missing (target : Value) : looseEquals .null target = .ok target.isNull := by
  rw [looseEquals_of_null (.inl rfl)]
  rfl

theorem anyEqual_missing (items : List Value) :
    Operator.anyEqual .null items = .ok false ↔ .null ∉ items := by
  rw [Operator.anyEqual_eq_false_iff]
  constructor
  · intro different member
    cases different _ member
  · intro noNull item member
    rw [looseEquals_missing, Except.ok.injEq]
    apply isNull_eq_false
    rintro rfl
    exact noNull member

theorem matchesPattern_missing (target : Value) :
    Operator.matchesPattern .null target = pure false := by
  cases target <;> rfl

theorem passes_missing_iff (name target : Value) :
    Value.null.Passes name target ↔ PassesMissing name target := by
  constructor
  · intro passes
    obtain ⟨operator, rfl⟩ := exists_operator_of_passes passes
    cases operator with
    | eq =>
        have isNull := (passes_eq_iff _ _).mp passes
        rw [looseEquals_missing, Except.ok.injEq, isNull_iff] at isNull
        exact isNull ▸ .eq
    | neq =>
        have notNull := (passes_neq_iff _ _).mp passes
        rw [looseEquals_missing] at notNull
        refine .neq ?_
        rintro rfl
        cases notNull
    | gt | lt | gte | lte =>
        obtain ⟨_, _, isMissing, _⟩ := (passes_number_iff _ _ rfl).mp passes
        cases isMissing
    | contains | startsWith | endsWith => cases (passes_iff _ _ _).mp passes
    | isIn =>
        obtain ⟨_, _, given, _⟩ := (passes_isIn_iff _ _).mp passes
        exact absurd rfl given
    | notIn =>
        obtain ⟨items, collects, noneEqual⟩ := (passes_notIn_iff _ _).mp passes
        exact .notIn collects ((anyEqual_missing items).mp noneEqual)
    | regex =>
        have holds := (passes_iff _ _ _).mp passes
        rw [Operator.holds, matchesPattern_missing] at holds
        cases holds
  · intro passes
    cases passes with
    | eq => exact (passes_eq_iff _ _).mpr rfl
    | neq given =>
        apply (passes_neq_iff _ _).mpr
        rw [looseEquals_missing, isNull_eq_false given]
    | notIn collects noNull =>
        exact (passes_notIn_iff _ _).mpr ⟨_, collects, (anyEqual_missing _).mpr noNull⟩

section

variable (observed : Value) {entries : List (Value × Value)} (given : entries ≠ [])

include given

theorem meets_iff_passes :
    (meets observed (.map entries)).result = .ok true ↔
      ∀ entry ∈ entries, observed.Passes entry.1 entry.2 := by
  rw [meets_operators observed given, result_operatorsHold_iff]

theorem meets_iff_of_perm {others : List (Value × Value)} (isPerm : entries.Perm others) :
    (meets observed (.map others)).result = .ok true ↔
      (meets observed (.map entries)).result = .ok true := by
  have othersGiven : others ≠ [] := by
    rintro rfl
    exact given isPerm.eq_nil
  rw [meets_iff_passes observed given, meets_iff_passes observed othersGiven]
  simp only [isPerm.mem_iff]

theorem result_meets_of_perm (areWritable : ∀ entry ∈ entries, ¬entry.1.HoldsLongWhole)
    {others : List (Value × Value)} (isPerm : entries.Perm others) :
    (meets observed (.map others)).result = (meets observed (.map entries)).result := by
  have othersGiven : others ≠ [] := by
    rintro rfl
    exact given isPerm.eq_nil
  have othersWritable : ∀ entry ∈ others, ¬entry.1.HoldsLongWhole := fun entry member =>
    areWritable entry (isPerm.mem_iff.mpr member)
  have sameTruth := meets_iff_of_perm observed given isPerm
  obtain ⟨answers, _, isAnswer⟩ := exists_answers observed areWritable
  obtain ⟨otherAnswers, _, isOtherAnswer⟩ := exists_answers observed othersWritable
  rw [← meets_operators observed given] at isAnswer
  rw [← meets_operators observed othersGiven] at isOtherAnswer
  rw [isAnswer, isOtherAnswer, Except.ok.injEq, Except.ok.injEq] at sameTruth
  rw [isAnswer, isOtherAnswer, Bool.eq_iff_iff.mpr sameTruth]

/-- A condition of several operators is met just when each of them, standing alone, is met, in whatever
order they stand. When their names can be written, as those that are texts can, every one of these
conditions has an answer, and no order changes it. Otherwise there is none just where the operators
hold up to one whose name cannot be written. -/
theorem meets_conjoins :
    ((meets observed (.map entries)).result = .ok true ↔
        ∀ entry ∈ entries, (meets observed (.map [entry])).result = .ok true) ∧
      (∀ others : List (Value × Value), entries.Perm others →
        ((meets observed (.map others)).result = .ok true ↔
          (meets observed (.map entries)).result = .ok true)) ∧
      ((∀ entry ∈ entries, ¬entry.1.HoldsLongWhole) →
        (∃ answers : List Bool,
          List.Forall₂ (fun entry answer => (meets observed (.map [entry])).result = .ok answer)
            entries answers ∧
          (meets observed (.map entries)).result = .ok (answers.all id)) ∧
        ∀ others : List (Value × Value), entries.Perm others →
          (meets observed (.map others)).result = (meets observed (.map entries)).result) ∧
      ((∃ answer, (meets observed (.map entries)).result = .ok answer) ↔
        ¬ReachLongName observed entries) ∧
      ((meets .null (.map entries)).result = .ok true ↔
        ∀ entry ∈ entries, PassesMissing entry.1 entry.2) := by
  refine ⟨meets_iff_passes observed given, fun others isPerm => meets_iff_of_perm observed given isPerm,
    fun areWritable => ⟨?_, fun others isPerm => ?_⟩, ?_, ?_⟩
  · rw [meets_operators observed given]
    exact exists_answers observed areWritable
  · exact result_meets_of_perm observed given areWritable isPerm
  · rw [meets_operators observed given]
    exact operatorsHold_isOk_iff observed entries
  · rw [meets_iff_passes .null given]
    simp only [passes_missing_iff]

end

theorem failing_and_unknown_in_any_order :
    let entries := [(Value.text "lt", Value.int 200), (.text "gt", .int (10 ^ 400)),
      (.text "near", .int 150)]
    let others := [(Value.text "near", Value.int 150), (.text "lt", .int 200),
      (.text "gt", .int (10 ^ 400))]
    (entries ≠ [] ∧ (∀ entry ∈ entries, ¬entry.1.HoldsLongWhole) ∧ entries.Perm others) ∧
      (meets (.int 150) (.map others)).result = (meets (.int 150) (.map entries)).result := by
  intro entries others
  have given : entries ≠ [] := List.cons_ne_nil _ _
  have areWritable : ∀ entry ∈ entries, ¬entry.1.HoldsLongWhole := by
    intro entry member
    rw [← isWritable_eq_false_iff]
    revert entry
    decide
  have isPerm : entries.Perm others := @List.perm_append_comm _ [_, _] [_]
  have conjoins := meets_conjoins (.int 150) given
  exact ⟨⟨given, areWritable, isPerm⟩, (conjoins.2.2.1 areWritable).2 others isPerm⟩

/-- An unknown operator whose name is the least number that cannot be written fails before an operator
that does not hold, and is not reached after it. -/
theorem overlong_name_in_both_orders :
    let name : Value := .int ((Nat.pow 10 wholeDigitLimit : Nat) : Int)
    (meets (.int 1) (.map [(name, .int 1)])).result = .error (.number .tooLongToWrite) ∧
      (meets (.int 1) (.map [(name, .int 1), (.text "eq", .int 2)])).result =
        .error (.number .tooLongToWrite) ∧
      (meets (.int 1) (.map [(.text "eq", .int 2), (name, .int 1)])).result = .ok false := by
  intro name
  have unwritten : name.isWritable = false :=
    (isWritable_eq_false_iff name).mpr (.int (Int.natAbs_natCast _).ge)
  have noText : name.text? = none := rfl
  clear_value name
  have fails : operatorHolds (.int 1) name (.int 1) = .fail (.number .tooLongToWrite) := by
    simp [operatorHolds, noText, unwritten]
  have differs : (operatorHolds (.int 1) (.text "eq") (.int 2)).result = .ok false := by
    decide +kernel
  refine ⟨?_, ?_, ?_⟩
  · rw [result_meets_single, fails]
    rfl
  · rw [meets_operators _ (List.cons_ne_nil _ _), operatorsHold, Outcome.result_bind, fails]
    rfl
  · rw [meets_operators _ (List.cons_ne_nil _ _), operatorsHold, Outcome.result_bind, differs]
    rfl

end Value

end ConversionTracking
