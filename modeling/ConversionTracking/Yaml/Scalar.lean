import ConversionTracking.Calendar.Civil
import ConversionTracking.Number.Numeral
import ConversionTracking.Number.Whole
import ConversionTracking.Text.Parts
import ConversionTracking.Unicode.Case
import ConversionTracking.Value.Equality
import ConversionTracking.Yaml.Base64
import ConversionTracking.Yaml.Cursor
import ConversionTracking.Yaml.Resolution

/-!
The values of scalars of every kind. A tag can ask for a kind that the text does not spell; then
there is no value.
-/

namespace ConversionTracking.Yaml

namespace Scalar

private def inconvertible {α : Type} (cause : ConversionTracking.Fault) : Except Fault α :=
  .error (.inconvertible cause)

private def number {α : Type} (result : Except NumberFault α) : Except Fault α :=
  result.mapError fun fault => .inconvertible (.number fault)

private def withoutLines (text : String) : List Char := text.toList.filter (· != '_')

private def signed (chars : List Char) : Except Fault (Bool × List Char) :=
  match chars with
  | [] => inconvertible .missingItem
  | first :: rest =>
      .ok (if first == '-' then (true, rest) else if first == '+' then (false, rest)
        else (false, chars))

private def negateIf (negative : Bool) (value : Int) : Int := if negative then -value else value

private def ofSixtieths (digits : List Int) : Int :=
  digits.foldl (fun total digit => total * 60 + digit) 0

def readInt (text : String) : Except Fault Int := do
  let (negative, chars) ← signed (withoutLines text)
  match chars with
  | [] => inconvertible .missingItem
  | ['0'] => return 0
  | '0' :: 'b' :: digits =>
      return negateIf negative (← number (WholeText.readBase 2 (String.ofList digits)))
  | '0' :: 'x' :: digits =>
      return negateIf negative (← number (WholeText.readBase 16 (String.ofList digits)))
  | '0' :: _ => return negateIf negative (← number (WholeText.readBase 8 (String.ofList chars)))
  | _ =>
      let parts := splitAtChar ':' chars
      let digits ← parts.mapM fun part => number (WholeText.read (String.ofList part))
      return negateIf negative (ofSixtieths digits)

def readPart (chars : List Char) : Except Fault Binary64 :=
  let trimmed := Unicode.trimEnds Unicode.isWhiteSpace chars
  let (negative, word) := Numeral.splitSign trimmed
  if ["inf", "infinity"].contains (String.ofList word) then .ok (.infinite negative)
  else if word == "nan".toList then .ok .nan
  else
    match Numeral.ofChars? trimmed with
    | some numeral => .ok numeral.toBinary64
    | none => inconvertible (.number (.notNumber (String.ofList chars)))

/-- The sum of parts, the last of which counts once and every other sixty times the next. -/
private def sumSixtieths (total : Binary64) (weight : Nat) : List Binary64 → Except Fault Binary64
  | [] => .ok total
  | part :: rest =>
      match Binary64.ofInt? weight with
      | none => inconvertible (.number .tooLarge)
      | some factor => sumSixtieths (total.add (part.mul factor)) (weight * 60) rest

private def lowered (chars : List Char) : List Char :=
  chars.map fun char => Char.ofNat (Unicode.lowerCode char.toNat)

def readFloat (text : String) : Except Fault Binary64 := do
  let (negative, chars) ← signed (lowered (withoutLines text))
  let size ←
    if chars == ".inf".toList then pure (Binary64.infinite false)
    else if chars == ".nan".toList then pure Binary64.nan
    else if chars.contains ':' then do
      let parts ← (splitAtChar ':' chars).mapM readPart
      sumSixtieths .zero 1 parts.reverse
    else readPart chars
  return if negative then size.negate else size

def truthValue? (word : String) : Option Bool :=
  if ["yes", "true", "on"].contains word then some true
  else if ["no", "false", "off"].contains word then some false
  else none

def readTruth (text : String) : Except Fault Bool :=
  match truthValue? (String.ofList (lowered text.toList)) with
  | some value => .ok value
  | none => inconvertible .missingEntry

def readBytes (text : String) : Except Fault (List UInt8) :=
  match Base64.decode? text with
  | some bytes => .ok bytes
  | none => .error .malformed

def microsPerMinute : Int := 60 * Calendar.microsPerSecond

def ofTimestamp (stamp : Timestamp) : Except CalendarFault Value :=
  let civil : CivilDate := ⟨stamp.year, stamp.month, stamp.day⟩
  match stamp.time with
  | none => civil.toDate.map .date
  | some (hour, minute, second) =>
      (Instant.ofParts civil ⟨hour, minute, second, stamp.micros⟩
        (stamp.offset.map (· * microsPerMinute))).map .instant

def readTimestamp (text : String) : Except Fault Value :=
  match Timestamp.ofChars? (Resolution.withoutLastBreak text.toList) with
  | none => inconvertible .missingAttribute
  | some stamp => (ofTimestamp stamp).mapError fun fault => .inconvertible (.calendar fault)

def read (kind : Kind) (text : String) : Except Fault Value :=
  match kind with
  | .null => .ok .null
  | .bool => (readTruth text).map .bool
  | .int => (readInt text).map .int
  | .float => (readFloat text).map .float
  | .binary => (readBytes text).map .bytes
  | .timestamp => readTimestamp text
  | .text => .ok (.text text)
  | _ => .error .malformed

end Scalar

end ConversionTracking.Yaml
