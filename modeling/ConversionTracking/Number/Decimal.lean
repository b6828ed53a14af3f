import ConversionTracking.Number.Binary64
import ConversionTracking.Number.Digits
import ConversionTracking.Unicode.Blank
import ConversionTracking.Unicode.Digit

/-!
Decimal numbers that keep the digits they were written with: `1.50` and `1.5` are equal and have
different texts.
-/

namespace ConversionTracking

inductive Decimal where
  | finite (negative : Bool) (coefficient : Nat) (exponent : Int)
  | infinite (negative : Bool)
  | nan (negative signaling : Bool) (payload : List Char)
deriving DecidableEq, Repr, Inhabited

namespace Decimal

private def splitSign : List Char → Bool × List Char
  | '-' :: rest => (true, rest)
  | '+' :: rest => (false, rest)
  | chars => (false, chars)

private def digitValues? (chars : List Char) : Option (List Nat) :=
  chars.mapM Unicode.decimalValue?

private def exponentOf? (chars : List Char) : Option Int :=
  let (negative, digits) := splitSign chars
  if digits.isEmpty then none
  else (digitValues? digits).map fun values =>
    if negative then -(ofDigitValues values : Int) else ofDigitValues values

private def finite? (negative : Bool) (chars : List Char) : Option Decimal := do
  let mantissa := chars.takeWhile fun char => char ≠ 'e' && char ≠ 'E'
  let tail := chars.drop mantissa.length
  let whole := mantissa.takeWhile (· ≠ '.')
  let fraction := (mantissa.drop whole.length).drop 1
  let exponent ← if tail.isEmpty then some 0 else exponentOf? (tail.drop 1)
  let values ← digitValues? (whole ++ fraction)
  if values.isEmpty then none
  else some (.finite negative (ofDigitValues values) (exponent - fraction.length))

/-- Reads a sign, digits with at most one point and an exponent, or a word for an infinity or NaN.
Underscores are dropped and blanks around the text do not count. -/
def parse? (text : String) : Option Decimal :=
  let chars := (Unicode.trimEnds Unicode.isBlank text.toList).filter (· ≠ '_')
  let (negative, body) := splitSign chars
  let word := body.map Char.toLower
  if word = "inf".toList ∨ word = "infinity".toList then some (.infinite negative)
  else if word.take 3 = "nan".toList ∧ (word.drop 3).all isAsciiDigit then
    some (.nan negative false ((word.drop 3).dropWhile (· = '0')))
  else if word.take 4 = "snan".toList ∧ (word.drop 4).all isAsciiDigit then
    some (.nan negative true ((word.drop 4).dropWhile (· = '0')))
  else finite? negative body

/-- Digits with a point after so many of them. Zeros stand for digits that are missing, and a point
after the last digit is left out. -/
def pointedText (digits : List Char) (point : Int) : String :=
  let count : Int := digits.length
  if point ≤ 0 then "0." ++ String.ofList (List.replicate point.natAbs '0' ++ digits)
  else if point ≥ count then
    String.ofList (digits ++ List.replicate (point - count).toNat '0')
  else String.ofList (digits.take point.toNat) ++ "." ++ String.ofList (digits.drop point.toNat)

/-- Digits with a point where the exponent puts it; an exponent is written when the exponent is
positive or more than five zeros would follow the point. -/
def finiteText (coefficient : Nat) (exponent : Int) : String :=
  let digits := decimalDigits coefficient
  let left := exponent + (digits.length : Int)
  let point := if exponent ≤ 0 ∧ left > -6 then left else 1
  let power := left - point
  if power = 0 then pointedText digits point
  else
    pointedText digits point ++ "E" ++ (if power < 0 then "-" else "+") ++ decimalText power.natAbs

def text : Decimal → String
  | .finite negative coefficient exponent =>
      (if negative then "-" else "") ++ finiteText coefficient exponent
  | .infinite negative => (if negative then "-" else "") ++ "Infinity"
  | .nan negative signaling payload =>
      (if negative then "-" else "") ++ (if signaling then "sNaN" else "NaN")
        ++ String.ofList payload

def toBinary64 : Decimal → Binary64
  | .finite negative coefficient exponent => .ofDecimal negative coefficient exponent
  | .infinite negative => .infinite negative
  | .nan .. => .nan

def isSignaling : Decimal → Bool
  | .nan _ signaling _ => signaling
  | _ => false

def isZero : Decimal → Bool
  | .finite _ coefficient _ => coefficient == 0
  | _ => false

def fraction? : Decimal → Option (Int × Nat)
  | .finite negative coefficient exponent =>
      let scaled := if exponent < 0 then coefficient else coefficient * Nat.pow 10 exponent.toNat
      let den := if exponent < 0 then Nat.pow 10 exponent.natAbs else 1
      some (if negative then -(scaled : Int) else scaled, den)
  | _ => none

def equalsInt (number : Decimal) (value : Int) : Bool :=
  match number.fraction? with
  | some (num, den) => num == value * den
  | none => false

def equalsBinary64 (number : Decimal) (value : Binary64) : Bool :=
  match number, value with
  | .infinite left, .infinite right => left == right
  | _, _ =>
      match number.fraction?, value.toUnits? with
      | some (num, den), some units => num * Binary64.unitsPerOne == units * den
      | _, _ => false

def equals (left right : Decimal) : Bool :=
  match left, right with
  | .infinite leftSign, .infinite rightSign => leftSign == rightSign
  | _, _ =>
      match left.fraction?, right.fraction? with
      | some (leftNum, leftDen), some (rightNum, rightDen) => leftNum * rightDen == rightNum * leftDen
      | _, _ => false

end Decimal

end ConversionTracking
