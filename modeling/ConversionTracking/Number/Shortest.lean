import ConversionTracking.Number.Binary64
import ConversionTracking.Number.Digits

/-!
Decimal text of double-precision numbers: the fewest significant digits that read back as the same
number, and a fixed number of significant digits.
-/

namespace ConversionTracking

structure DecimalDigits where
  digits : Nat
  exponent : Int
deriving DecidableEq, Repr

namespace DecimalDigits

private def powerAtMost (power : Int) (num den : Nat) : Bool :=
  if power < 0 then den ≤ num * Nat.pow 10 power.natAbs else Nat.pow 10 power.toNat * den ≤ num

private def leadingPowerFrom (num den : Nat) : Nat → Int → Int
  | 0, guess => guess
  | fuel + 1, guess =>
      if powerAtMost (guess + 1) num den then leadingPowerFrom num den fuel (guess + 1) else guess

def leadingPower (units : Nat) : Int :=
  let estimate := ((units.log2 : Int) - 1074) * 30103 / 100000
  leadingPowerFrom units Binary64.unitsPerOne 4 (estimate - 2)

private def gridFraction (units : Nat) (step : Int) : Nat × Nat :=
  if step < 0 then (units * Nat.pow 10 step.natAbs, Binary64.unitsPerOne)
  else (units, Binary64.unitsPerOne * Nat.pow 10 step.toNat)

def readsBack (units : Nat) (candidate : DecimalDigits) : Bool :=
  match Binary64.ofDecimal false candidate.digits candidate.exponent with
  | .finite _ read _ => read == units
  | _ => false

/-- The decimal with `count` digits that is nearest to the value among its two neighbours on that
grid which read back as the value. Of two equally near the even one comes first. -/
def candidate? (units : Nat) (power : Int) (count : Nat) : Option DecimalDigits :=
  let step := power - (count : Int) + 1
  let (num, den) := gridFraction units step
  let below : DecimalDigits := ⟨num / den, step⟩
  let above : DecimalDigits := ⟨num / den + 1, step⟩
  let twice := 2 * (num % den)
  let belowFirst := twice < den || (twice == den && num / den % 2 == 0)
  let (first, second) := if belowFirst then (below, above) else (above, below)
  if readsBack units first then some first
  else if readsBack units second then some second
  else none

private def firstCandidate (units : Nat) (power : Int) : Nat → Nat → Option DecimalDigits
  | 0, _ => none
  | fuel + 1, count => (candidate? units power count).or (firstCandidate units power fuel (count + 1))

private def dropZeros : Nat → DecimalDigits → DecimalDigits
  | 0, number => number
  | fuel + 1, number =>
      if number.digits % 10 = 0 ∧ number.digits ≠ 0 then
        dropZeros fuel ⟨number.digits / 10, number.exponent + 1⟩
      else number

def shortest (units : Nat) : DecimalDigits :=
  if units = 0 then ⟨0, 0⟩
  else
    let power := leadingPower units
    dropZeros 20 ((firstCandidate units power 17 1).getD ⟨0, 0⟩)

/-- The magnitude rounded to `count` significant digits, a half going up, without trailing zeros. -/
def significant (units count : Nat) : DecimalDigits :=
  if units = 0 then ⟨0, 0⟩
  else
    let step := leadingPower units - (count : Int) + 1
    let (num, den) := gridFraction units step
    dropZeros (count + 1) ⟨(2 * num + den) / (2 * den), step⟩

def positional (number : DecimalDigits) : String :=
  let digits := decimalDigits number.digits
  if 0 ≤ number.exponent then
    String.ofList (digits ++ List.replicate number.exponent.toNat '0') ++ ".0"
  else
    let places := number.exponent.natAbs
    let padded := List.replicate (places + 1 - digits.length) '0' ++ digits
    let split := padded.length - places
    String.ofList (padded.take split) ++ "." ++ String.ofList (padded.drop split)

/-- One digit before the point and an exponent with a sign and two digits or more. A mantissa of one
digit has a point only when `point` is set. -/
def scientific (point : Bool) (number : DecimalDigits) : String :=
  let digits := decimalDigits number.digits
  let power := number.exponent + (digits.length : Int) - 1
  let mantissa :=
    match digits with
    | [] => ""
    | [digit] => String.ofList [digit] ++ (if point then ".0" else "")
    | first :: rest => String.ofList [first] ++ "." ++ String.ofList rest
  mantissa ++ "e" ++ (if power < 0 then "-" else "+") ++ paddedText 2 power.natAbs

def power (number : DecimalDigits) : Int :=
  number.exponent + ((decimalDigits number.digits).length : Int) - 1

end DecimalDigits

namespace Binary64

/-- Numbers from 10⁻⁴ up to 10¹⁶ are written positionally, the others with an exponent. -/
def text : Binary64 → String
  | .nan => "nan"
  | .infinite negative => if negative then "-inf" else "inf"
  | .finite negative units _ =>
      let number := DecimalDigits.shortest units
      let power := number.power
      let body :=
        if units = 0 then "0.0"
        else if -4 ≤ power ∧ power < 16 then number.positional
        else number.scientific false
      if negative then "-" ++ body else body

/-- The text a column of characters holds for a number: fifteen significant digits and a point,
positional from 10⁻⁴ up to 10¹⁵. -/
def columnText : Binary64 → String
  | .nan => ""
  | .infinite negative => if negative then "-Inf" else "Inf"
  | .finite negative units _ =>
      let number := DecimalDigits.significant units 15
      let power := number.power
      let body :=
        if units = 0 then "0.0"
        else if -4 ≤ power ∧ power < 15 then number.positional
        else number.scientific true
      if negative then "-" ++ body else body

end Binary64

end ConversionTracking
