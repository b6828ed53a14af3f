import ConversionTracking.Condition.Operator
import ConversionTracking.Matching.Worth
import ConversionTracking.Proofs.Condition.Paths
import ConversionTracking.Proofs.Condition.Readings
import ConversionTracking.Proofs.Store.Database

/-!
When conditions and values of conversions come to an answer. What an operator fails with is caught, so
that only plain values to compare with, and names of operators that cannot be written, let a condition
fail.
-/

namespace ConversionTracking

theorem isOk_iff_of_error_iff {α β : Type} {result : Except α β} {fails : Prop}
    (isError : (∃ fault, result = .error fault) ↔ fails) :
    (∃ answer, result = .ok answer) ↔ ¬fails := by
  rw [← isError]
  cases result with
  | ok answer => exact iff_of_true ⟨answer, rfl⟩ nofun
  | error fault => exact iff_of_false nofun (not_not_intro ⟨fault, rfl⟩)

theorem mapError_error_iff {α : Type} (result : Except NumberFault α) :
    (∃ fault, result.mapError Fault.number = .error fault) ↔ ∃ fault, result = .error fault := by
  cases result with
  | ok answer => simp [Except.mapError]
  | error fault => exact iff_of_true ⟨.number fault, rfl⟩ ⟨fault, rfl⟩

namespace Value

theorem meets_scalar {observed target : Value} (notMap : ∀ entries, target ≠ .map entries) :
    meets observed target = Operator.numbers (observed.looseEquals target) := by
  cases target with
  | map entries => exact absurd rfl (notMap entries)
  | _ => rfl

theorem meets_operator {observed target : Value} {name : String} {operator : Operator} {answer : Bool}
    (isOperator : Operator.ofName? name = some operator)
    (holds : operator.holds observed target = pure answer) :
    meets observed (.map [(.text name, target)]) = pure answer := by
  have single : operatorHolds observed (.text name) target = pure answer := by
    rw [operatorHolds, text?, Option.bind_some, isOperator]
    dsimp only
    rw [holds]
    rfl
  rw [meets]
  simp only [List.isEmpty_cons]
  rw [operatorsHold, single]
  cases answer <;> rfl

/-- An operator of a condition fails just when its name cannot be written: what a known operator fails
with is caught. -/
theorem operatorHolds_isOk_iff (observed name target : Value) :
    (∃ answer, (operatorHolds observed name target).result = .ok answer) ↔ ¬name.HoldsLongWhole := by
  rw [← isWritable_eq_false_iff, operatorHolds]
  cases isOperator : name.text?.bind Operator.ofName? with
  | none => cases isWritable : name.isWritable <;> simp
  | some operator =>
      have isText : name.isWritable = true := by
        obtain ⟨text, isText, _⟩ := Option.bind_eq_some_iff.mp isOperator
        rw [(text?_eq_some_iff name text).mp isText]
        rfl
      rw [isText]
      refine iff_of_true ?_ Bool.noConfusion
      dsimp only
      rw [Outcome.result_recover]
      cases (operator.holds observed target).result with
      | ok answer => exact ⟨answer, rfl⟩
      | error fault => exact ⟨false, rfl⟩

/-- The operators of a condition that are tried hold up to one whose name cannot be written. -/
def ReachLongName (observed : Value) (entries : List (Value × Value)) : Prop :=
  ∃ before name target after, entries = before ++ (name, target) :: after ∧
    (∀ entry ∈ before, (operatorHolds observed entry.1 entry.2).result = .ok true) ∧
    name.HoldsLongWhole

theorem reachLongName_cons_iff (observed name target : Value) (rest : List (Value × Value)) :
    ReachLongName observed ((name, target) :: rest) ↔
      name.HoldsLongWhole ∨
        (operatorHolds observed name target).result = .ok true ∧ ReachLongName observed rest := by
  constructor
  · rintro ⟨before, longName, longTarget, after, isEntries, hold, isLong⟩
    cases before with
    | nil =>
        obtain ⟨same, rfl⟩ := List.cons.inj isEntries
        obtain ⟨rfl, rfl⟩ := Prod.mk.inj same
        exact .inl isLong
    | cons first before =>
        obtain ⟨rfl, rfl⟩ := List.cons.inj isEntries
        obtain ⟨firstHolds, restHold⟩ := List.forall_mem_cons.mp hold
        exact .inr ⟨firstHolds, before, longName, longTarget, after, rfl, restHold, isLong⟩
  · rintro (isLong | ⟨holds, before, longName, longTarget, after, rfl, hold, isLong⟩)
    · exact ⟨[], name, target, rest, rfl, by simp, isLong⟩
    · exact ⟨(name, target) :: before, longName, longTarget, after, rfl,
        List.forall_mem_cons.mpr ⟨holds, hold⟩, isLong⟩

theorem operatorsHold_isOk_iff (observed : Value) (entries : List (Value × Value)) :
    (∃ answer, (operatorsHold observed entries).result = .ok answer) ↔
      ¬ReachLongName observed entries := by
  induction entries with
  | nil =>
      refine iff_of_true ⟨true, rfl⟩ ?_
      rintro ⟨before, name, target, after, isEntries, _⟩
      exact List.append_ne_nil_of_right_ne_nil before (List.cons_ne_nil _ after) isEntries.symm
  | cons entry rest ih =>
      obtain ⟨name, target⟩ := entry
      rw [reachLongName_cons_iff, operatorsHold, Outcome.result_bind]
      by_cases isLong : name.HoldsLongWhole
      · refine iff_of_false ?_ (not_not_intro (.inl isLong))
        cases holds : (operatorHolds observed name target).result with
        | ok answer => exact absurd isLong ((operatorHolds_isOk_iff _ _ _).mp ⟨answer, holds⟩)
        | error fault => exact nofun
      · obtain ⟨answer, holds⟩ := (operatorHolds_isOk_iff observed name target).mpr isLong
        rw [holds, or_iff_right isLong]
        cases answer with
        | true => simpa using ih
        | false => simp

/-- The condition breaks off on the observed value: the two cannot be compared, or the operators reach
one whose name cannot be written. -/
inductive BreaksOff (observed : Value) : Value → Prop where
  | comparison {target : Value} (notMap : ∀ entries, target ≠ .map entries)
      (observedGiven : observed ≠ .null) (targetGiven : target ≠ .null)
      (fails : observed.IsUnreadable ∨ target.IsUnreadable ∨ observed.MeetsSignaling target) :
      BreaksOff observed target
  | operator {entries : List (Value × Value)} (reach : ReachLongName observed entries) :
      BreaksOff observed (.map entries)

theorem meets_isOk_iff (observed condition : Value) :
    (∃ answer, (meets observed condition).result = .ok answer) ↔ ¬observed.BreaksOff condition := by
  by_cases isMap : ∃ entries, condition = .map entries
  · obtain ⟨entries, rfl⟩ := isMap
    have onlyOperators : observed.BreaksOff (.map entries) ↔ ReachLongName observed entries := by
      refine ⟨fun breaksOff => ?_, .operator⟩
      cases breaksOff with
      | comparison notMap _ _ _ => exact absurd rfl (notMap entries)
      | operator reach => exact reach
    rw [onlyOperators, ← operatorsHold_isOk_iff]
    cases entries with
    | nil => exact iff_of_true ⟨false, rfl⟩ ⟨true, rfl⟩
    | cons entry rest => rfl
  · have notMap : ∀ entries, condition ≠ .map entries := fun entries same => isMap ⟨entries, same⟩
    have onlyComparison : observed.BreaksOff condition ↔
        ∃ fault, observed.looseEquals condition = .error fault := by
      rw [looseEquals_error_iff]
      constructor
      · intro breaksOff
        cases breaksOff with
        | comparison _ observedGiven targetGiven fails => exact ⟨observedGiven, targetGiven, fails⟩
        | operator _ => exact absurd rfl (notMap _)
      · rintro ⟨observedGiven, targetGiven, fails⟩
        exact .comparison notMap observedGiven targetGiven fails
    rw [onlyComparison, meets_scalar notMap]
    exact isOk_iff_of_error_iff (mapError_error_iff (observed.looseEquals condition))

end Value

namespace WorthRule

open Value

/-- The goal takes the value of its conversions from among the properties of events, by the path of these
segments. -/
structure Searches (rule : WorthRule) (segments : List String) : Prop where
  isDynamic : rule.valueType = .text "dynamic"
  isPath : ∃ path, path ≠ "" ∧ rule.dynamicPath = .text path ∧ AreSegments path segments

/-- The value of the conversion cannot be told: it is to be read from a value that is unreadable, or
found by a path that is no text or that is blocked. -/
inductive BreaksOff (rule : WorthRule) : Trigger → Prop where
  | fixed {trigger : Trigger} (isFixed : rule.valueType = .text "fixed")
      (isUnreadable : rule.fixedValue.IsUnreadable) : BreaksOff rule trigger
  | pathKind {source : EventTrigger} (isDynamic : rule.valueType = .text "dynamic")
      (given : rule.dynamicPath.isGiven = true) (notText : ∀ path, rule.dynamicPath ≠ .text path) :
      BreaksOff rule (.event source)
  | blocked {source : EventTrigger} {segments : List String} (searches : rule.Searches segments)
      (isBlocked : IsBlocked (givenProperties source.properties) segments) :
      BreaksOff rule (.event source)
  | found {source : EventTrigger} {segments : List String} {value : Value}
      (searches : rule.Searches segments)
      (notBlocked : ¬IsBlocked (givenProperties source.properties) segments)
      (leads : Leads (givenProperties source.properties) segments value)
      (isUnreadable : value.IsUnreadable) : BreaksOff rule (.event source)

theorem not_fixed_of_dynamic {rule : WorthRule} (isDynamic : rule.valueType = .text "dynamic") :
    rule.valueType ≠ .text "fixed" := by
  rw [isDynamic]
  simp

theorem Searches.unique {rule : WorthRule} {first second : List String}
    (isFirst : rule.Searches first) (isSecond : rule.Searches second) : first = second := by
  obtain ⟨firstPath, _, isPath, firstSegments⟩ := isFirst.isPath
  obtain ⟨secondPath, _, samePath, secondSegments⟩ := isSecond.isPath
  obtain rfl := Value.text.inj (isPath.symm.trans samePath)
  rw [firstSegments.eq_split, secondSegments.eq_split]

theorem dynamicValue_error_iff (source : EventTrigger) {path : String} {segments : List String}
    (given : path ≠ "") (areSegments : AreSegments path segments) :
    (∃ fault, dynamicValue (.text path) (.event source) = .error fault) ↔
      IsBlocked (givenProperties source.properties) segments ∨
        ¬IsBlocked (givenProperties source.properties) segments ∧
          ∃ value, Leads (givenProperties source.properties) segments value ∧ value.IsUnreadable := by
  have isGiven : (Value.text path).isGiven = true := by simpa [isGiven] using given
  have searched : dynamicValue (.text path) (.event source) = (do
      let found ← ((givenProperties source.properties).atPath path).mapError .number
      found.toNumber.mapError .number) := by
    rw [dynamicValue, if_pos isGiven]
  rw [searched]
  obtain ⟨isError, isOk⟩ := atPath_spec (givenProperties source.properties) areSegments
  cases isFound : (givenProperties source.properties).atPath path with
  | error fault => exact iff_of_true ⟨_, rfl⟩ (.inl (isError.mp ⟨fault, isFound⟩))
  | ok found =>
      obtain ⟨notBlocked, isRight⟩ := (isOk found).mp isFound
      rw [or_iff_right notBlocked, and_iff_right notBlocked]
      have onlyFound : (∃ value, Leads (givenProperties source.properties) segments value ∧
          value.IsUnreadable) ↔ found.IsUnreadable := by
        constructor
        · rintro ⟨value, leads, isUnreadable⟩
          rcases isRight with foundLeads | ⟨_, nowhere⟩
          · exact leads.unique foundLeads ▸ isUnreadable
          · exact absurd leads (nowhere value)
        · intro isUnreadable
          rcases isRight with foundLeads | ⟨rfl, _⟩
          · exact ⟨found, foundLeads, isUnreadable⟩
          · cases isUnreadable
      rw [onlyFound, ← toNumber_error_iff]
      change (∃ fault, found.toNumber.mapError Fault.number = .error fault) ↔ _
      exact mapError_error_iff found.toNumber

/-- A goal that searches breaks off just when its path is blocked or leads to what is unreadable. -/
theorem Searches.breaksOff_iff {rule : WorthRule} {segments : List String}
    (searches : rule.Searches segments) (source : EventTrigger) :
    rule.BreaksOff (.event source) ↔
      IsBlocked (givenProperties source.properties) segments ∨
        ¬IsBlocked (givenProperties source.properties) segments ∧
          ∃ value, Leads (givenProperties source.properties) segments value ∧ value.IsUnreadable := by
  constructor
  · intro breaksOff
    cases breaksOff with
    | fixed isFixed _ => exact absurd isFixed (not_fixed_of_dynamic searches.isDynamic)
    | pathKind _ _ notText =>
        obtain ⟨path, _, isPath, _⟩ := searches.isPath
        exact absurd isPath (notText path)
    | blocked otherSearches isBlocked =>
        obtain rfl := searches.unique otherSearches
        exact .inl isBlocked
    | found otherSearches notBlocked leads isUnreadable =>
        obtain rfl := searches.unique otherSearches
        exact .inr ⟨notBlocked, _, leads, isUnreadable⟩
  · rintro (isBlocked | ⟨notBlocked, value, leads, isUnreadable⟩)
    · exact .blocked searches isBlocked
    · exact .found searches notBlocked leads isUnreadable

theorem dynamicValue_text_error_iff {rule : WorthRule} {path : String}
    (isDynamic : rule.valueType = .text "dynamic") (isPath : rule.dynamicPath = .text path)
    (source : EventTrigger) :
    (∃ fault, dynamicValue rule.dynamicPath (.event source) = .error fault) ↔
      rule.BreaksOff (.event source) := by
  by_cases given : path = ""
  · subst given
    rw [isPath]
    refine iff_of_false nofun fun breaksOff => ?_
    cases breaksOff with
    | fixed isFixed _ => exact not_fixed_of_dynamic isDynamic isFixed
    | pathKind _ _ notText => exact notText _ isPath
    | blocked searches _ | found searches _ _ _ =>
        obtain ⟨other, given, otherPath, _⟩ := searches.isPath
        exact given (Value.text.inj (otherPath.symm.trans isPath))
  · have isSplit := areSegments_splitAtChar path
    have searches : rule.Searches ((splitAtChar '.' path.toList).map String.ofList) :=
      ⟨isDynamic, path, given, isPath, isSplit⟩
    rw [isPath, dynamicValue_error_iff source given isSplit, searches.breaksOff_iff]

theorem dynamicValue_other_error_iff {rule : WorthRule}
    (isDynamic : rule.valueType = .text "dynamic") (notText : ∀ path, rule.dynamicPath ≠ .text path)
    (source : EventTrigger) :
    (∃ fault, dynamicValue rule.dynamicPath (.event source) = .error fault) ↔
      rule.BreaksOff (.event source) := by
  have onlyGiven : rule.BreaksOff (.event source) ↔ rule.dynamicPath.isGiven = true := by
    refine ⟨fun breaksOff => ?_, fun given => .pathKind isDynamic given notText⟩
    cases breaksOff with
    | fixed isFixed _ => exact absurd isFixed (not_fixed_of_dynamic isDynamic)
    | pathKind _ given _ => exact given
    | blocked searches _ | found searches _ _ _ =>
        obtain ⟨path, _, isPath, _⟩ := searches.isPath
        exact absurd isPath (notText path)
  have unread : dynamicValue rule.dynamicPath (.event source) =
      if rule.dynamicPath.isGiven then .error .missingAttribute else .ok none := by
    rw [dynamicValue]
    exact notText
  rw [onlyGiven, unread]
  split
  · rename_i given
    exact iff_of_true ⟨_, rfl⟩ given
  · rename_i notGiven
    exact iff_of_false nofun notGiven

theorem resolve_error_iff (rule : WorthRule) (trigger : Trigger) :
    (∃ fault, rule.resolve trigger = .error fault) ↔ rule.BreaksOff trigger := by
  unfold resolve
  split
  · rename_i isFixed
    have onlyFixed : rule.BreaksOff trigger ↔ rule.fixedValue.IsUnreadable := by
      refine ⟨fun breaksOff => ?_, .fixed isFixed⟩
      cases breaksOff with
      | fixed _ isUnreadable => exact isUnreadable
      | pathKind isDynamic _ _ => exact absurd isFixed (not_fixed_of_dynamic isDynamic)
      | blocked searches _ | found searches _ _ _ =>
          exact absurd isFixed (not_fixed_of_dynamic searches.isDynamic)
    rw [onlyFixed, ← toNumber_error_iff]
    exact mapError_error_iff rule.fixedValue.toNumber
  · rename_i isDynamic
    cases trigger with
    | event source =>
        by_cases isText : ∃ path, rule.dynamicPath = .text path
        · obtain ⟨path, isPath⟩ := isText
          exact dynamicValue_text_error_iff isDynamic isPath source
        · exact dynamicValue_other_error_iff isDynamic (not_exists.mp isText) source
    | pageView _ | session _ | other _ =>
        refine iff_of_false nofun fun breaksOff => ?_
        cases breaksOff with
        | fixed isFixed _ => exact not_fixed_of_dynamic isDynamic isFixed
  · rename_i notFixed notDynamic
    refine iff_of_false nofun fun breaksOff => ?_
    cases breaksOff with
    | fixed isFixed _ => exact notFixed isFixed
    | pathKind isDynamic _ _ => exact notDynamic isDynamic
    | blocked searches _ | found searches _ _ _ => exact notDynamic searches.isDynamic

end WorthRule

/-- Conditions are told true or false, and conversions are given a value or none, just where nothing
makes them break off. -/
theorem evaluation_answers_iff (observed condition : Value) (rule : WorthRule) (trigger : Trigger) :
    ((∃ answer, (meets observed condition).result = .ok answer) ↔ ¬observed.BreaksOff condition) ∧
      ((∃ worth, rule.resolve trigger = .ok worth) ↔ ¬rule.BreaksOff trigger) :=
  ⟨Value.meets_isOk_iff observed condition,
    isOk_iff_of_error_iff (WorthRule.resolve_error_iff rule trigger)⟩

/-- A whole number beyond double precision cannot be compared with one. -/
theorem huge_observed_fails :
    ¬∀ observed condition : Value, ∃ answer, (meets observed condition).result = .ok answer := by
  intro answers
  have fails : (meets (.int (10 ^ 400)) (.int 1)).result.isOk = false := by decide +kernel
  obtain ⟨answer, isAnswer⟩ := answers (.int (10 ^ 400)) (.int 1)
  rw [isAnswer] at fails
  cases fails

end ConversionTracking
