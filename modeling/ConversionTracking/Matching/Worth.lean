import ConversionTracking.Matching.Check

/-!
What a conversion is worth: nothing, a fixed value, or a value among the properties of the event.
-/

namespace ConversionTracking

structure WorthRule where
  valueType : Value
  fixedValue : Value
  dynamicPath : Value

namespace WorthRule

def dynamicValue (path : Value) (trigger : Trigger) : Except Fault (Option Binary64) :=
  match trigger with
  | .event source =>
      if path.isGiven then
        match path with
        | .text path => do
            let found ← ((givenProperties source.properties).atPath path).mapError .number
            found.toNumber.mapError .number
        | _ => .error .missingAttribute
      else .ok none
  | _ => .ok none

def resolve (rule : WorthRule) (trigger : Trigger) : Except Fault (Option Binary64) :=
  match rule.valueType with
  | .text "fixed" => rule.fixedValue.toNumber.mapError .number
  | .text "dynamic" => dynamicValue rule.dynamicPath trigger
  | _ => .ok none

end WorthRule

end ConversionTracking
