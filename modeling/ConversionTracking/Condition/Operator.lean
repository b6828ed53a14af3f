import ConversionTracking.Condition.Reading
import ConversionTracking.Outcome
import ConversionTracking.Pattern.Delimited
import ConversionTracking.Text.Parts

/-!
Conditions on one observed value: a plain value for loose equality, or a map of operators and targets
that all have to hold.
-/

namespace ConversionTracking

inductive Operator where
  | eq
  | neq
  | gt
  | lt
  | gte
  | lte
  | contains
  | startsWith
  | endsWith
  | isIn
  | notIn
  | regex
deriving DecidableEq, Repr

namespace Operator

def ofName? : String → Option Operator
  | "eq" => some .eq
  | "neq" => some .neq
  | "gt" => some .gt
  | "lt" => some .lt
  | "gte" => some .gte
  | "lte" => some .lte
  | "contains" => some .contains
  | "starts_with" => some .startsWith
  | "ends_with" => some .endsWith
  | "in" => some .isIn
  | "not_in" => some .notIn
  | "regex" => some .regex
  | _ => none

def onNumbers (compare : Binary64 → Binary64 → Bool) (observed target : Value) :
    Except NumberFault Bool := do
  match (← observed.toNumber), (← target.toNumber) with
  | some left, some right => return compare left right
  | _, _ => return false

def onTexts (compare : List Char → List Char → Bool) (observed target : Value) :
    Except NumberFault Bool := do
  if observed.isNull then return false
  match (← observed.writtenText), (← target.writtenText) with
  | some left, some right => return compare left.toList right.toList
  | _, _ => return false

def anyEqual (observed : Value) : List Value → Except NumberFault Bool
  | [] => .ok false
  | candidate :: rest => do
      if ← observed.looseEquals candidate then return true else anyEqual observed rest

def candidates? : Value → Option (List Value)
  | .list items | .tuple items | .set items => some items
  | _ => none

def matchesPattern (observed target : Value) : Outcome Bool :=
  match target with
  | .text pattern => do
      match ← Outcome.ofExcept (observed.writtenText.mapError .number) with
      | some subject =>
          match Pattern.compile pattern with
          | .ok compiled => return (compiled.search subject).isSome
          | .error .malformed => do
              Outcome.note .conditionPatternInvalid
              return false
          | .error fault => .fail (.pattern fault)
      | none => return false
  | _ => pure false

def numbers (result : Except NumberFault Bool) : Outcome Bool :=
  .ofExcept (result.mapError .number)

def holds (operator : Operator) (observed target : Value) : Outcome Bool :=
  match operator with
  | .eq => numbers (observed.looseEquals target)
  | .neq => numbers ((observed.looseEquals target).map (!·))
  | .gt => numbers (onNumbers (fun left right => right.less left) observed target)
  | .lt => numbers (onNumbers Binary64.less observed target)
  | .gte => numbers (onNumbers (fun left right => right.lessOrEqual left) observed target)
  | .lte => numbers (onNumbers Binary64.lessOrEqual observed target)
  | .contains => numbers (onTexts (fun text part => occursIn part text) observed target)
  | .startsWith => numbers (onTexts (fun text start => start.isPrefixOf text) observed target)
  | .endsWith => numbers (onTexts (fun text ending => ending.isSuffixOf text) observed target)
  | .isIn =>
      match candidates? target with
      | some candidates => if observed.isNull then pure false else numbers (anyEqual observed candidates)
      | none => pure false
  | .notIn =>
      match candidates? target with
      | some candidates => numbers ((anyEqual observed candidates).map (!·))
      | none => pure false
  | .regex => matchesPattern observed target

end Operator

/-- One operator of a condition. Unknown operators do not hold, and one that fails does not hold
either. The name of an unknown operator is written down, if it can be. -/
def operatorHolds (observed name target : Value) : Outcome Bool :=
  match name.text?.bind Operator.ofName? with
  | none => if name.isWritable then pure false else .fail (.number .tooLongToWrite)
  | some operator =>
      (operator.holds observed target).recover fun _ => do
        Outcome.note .operatorFailed
        return false

def operatorsHold (observed : Value) : List (Value × Value) → Outcome Bool
  | [] => pure true
  | (name, target) :: rest => do
      if ← operatorHolds observed name target then operatorsHold observed rest else return false

def meets (observed condition : Value) : Outcome Bool :=
  match condition with
  | .map entries => if entries.isEmpty then pure false else operatorsHold observed entries
  | scalar => .ofExcept ((observed.looseEquals scalar).mapError .number)

end ConversionTracking
