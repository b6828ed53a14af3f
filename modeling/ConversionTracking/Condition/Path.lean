import ConversionTracking.Number.Whole
import ConversionTracking.Text.Parts
import ConversionTracking.Unicode.Digit
import ConversionTracking.Value.Equality

/-!
Values inside values, by paths of map keys and list positions between dots.
-/

namespace ConversionTracking

namespace Value

/-- One step of a path: an entry of a map, or an item of a list by a segment of digits. Null when
there is none. Digits that are not decimal are refused as positions. -/
def step (value : Value) (segment : String) : Except NumberFault Value :=
  match value with
  | .map entries => .ok (Entries.field entries segment)
  | .list items =>
      if !segment.isEmpty && segment.toList.all Unicode.isDigit then do
        let position ← WholeText.read segment
        return (items[position.toNat]?).getD .null
      else .ok .null
  | _ => .ok .null

def steps (value : Value) : List String → Except NumberFault Value
  | [] => .ok value
  | segment :: rest => do steps (← value.step segment) rest

def atPath (value : Value) (path : String) : Except NumberFault Value :=
  value.steps ((splitAtChar '.' path.toList).map String.ofList)

end Value

end ConversionTracking
