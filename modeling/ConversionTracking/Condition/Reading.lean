import ConversionTracking.Number.Numeral
import ConversionTracking.Value.Equality
import ConversionTracking.Value.Text

/-!
Values read as numbers and as text, and the loose equality that compares them by these readings.
-/

namespace ConversionTracking

namespace Value

def toNumber : Value → Except NumberFault (Option Binary64)
  | .int value => (Binary64.ofInt? value).elim (.error .tooLarge) fun number => .ok (some number)
  | .float value => .ok (some value)
  | .decimal value =>
      if value.isSignaling then .error .signalingNaN else .ok (some value.toBinary64)
  | .text value => Numeral.read value
  | _ => .ok none

def toText? : Value → Option String
  | .bool value => some (if value then "1" else "")
  | .int value => some (intText value)
  | .float value =>
      match value.toInt? with
      | some whole => some (intText whole)
      | none => some value.text
  | .decimal value => some value.text
  | .text value => some value
  | _ => none

def writtenText : Value → Except NumberFault (Option String)
  | .int value =>
      if isWritableWhole value then .ok (some (intText value)) else .error .tooLongToWrite
  | value => .ok value.toText?

/-- Equality by numeric readings when both values have one, else by text readings when both have one,
else of the values themselves. Null equals only null. A whole number with a numeric reading is short
enough to be written. -/
def looseEquals (observed target : Value) : Except NumberFault Bool := do
  if observed.isNull || target.isNull then return observed.isNull && target.isNull
  let left ← observed.toNumber
  let right ← target.toNumber
  match left, right with
  | some left, some right => return left.equals right
  | _, _ =>
      match observed.toText?, target.toText? with
      | some left, some right => return left == right
      | _, _ =>
          if observed.signals target then .error .signalingCompared
          else return observed.equals target

end Value

end ConversionTracking
