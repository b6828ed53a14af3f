import ConversionTracking.Number.Binary64
import ConversionTracking.Number.Fault
import ConversionTracking.Unicode.Blank
import ConversionTracking.Unicode.Digit

/-!
Numbers in text: blanks, a sign, decimal digits of any script with at most one point, and an
exponent. Words such as `inf` or `nan` and hexadecimal digits are not numbers.
-/

namespace ConversionTracking

structure Numeral where
  negative : Bool
  digits : Nat
  exponent : Int
deriving DecidableEq, Repr

namespace Numeral

def splitDigits (chars : List Char) : List Nat × List Char :=
  match chars with
  | [] => ([], [])
  | char :: rest =>
      match Unicode.decimalValue? char with
      | some value => let (values, tail) := splitDigits rest; (value :: values, tail)
      | none => ([], chars)

def splitSign : List Char → Bool × List Char
  | '-' :: rest => (true, rest)
  | '+' :: rest => (false, rest)
  | chars => (false, chars)

def splitFraction : List Char → List Nat × List Char
  | '.' :: rest => splitDigits rest
  | chars => ([], chars)

def exponent? : List Char → Option Int
  | [] => some 0
  | mark :: rest =>
      if mark = 'e' ∨ mark = 'E' then
        let (negative, digits) := splitSign rest
        match splitDigits digits with
        | ([], _) => none
        | (values, []) =>
            some (if negative then -(ofDigitValues values : Int) else ofDigitValues values)
        | _ => none
      else none

def ofChars? (chars : List Char) : Option Numeral :=
  let (negative, body) := splitSign chars
  let (whole, afterWhole) := splitDigits body
  let (fraction, afterFraction) := splitFraction afterWhole
  if whole.isEmpty && fraction.isEmpty then none
  else (exponent? afterFraction).map fun exponent =>
    { negative, digits := ofDigitValues (whole ++ fraction), exponent := exponent - fraction.length }

def parse? (text : String) : Option Numeral :=
  ofChars? (Unicode.trimEnds Unicode.isBlank text.toList)

def toBinary64 (numeral : Numeral) : Binary64 :=
  .ofDecimal numeral.negative numeral.digits numeral.exponent

/-- The number that a text spells, if it is a numeral. Information separators are blanks to the
grammar of numerals and no white space to the conversion, which refuses them. -/
def read (text : String) : Except NumberFault (Option Binary64) :=
  match parse? text with
  | none => .ok none
  | some numeral =>
      if (ofChars? (Unicode.trimEnds Unicode.isWhiteSpace text.toList)).isSome then
        .ok (some numeral.toBinary64)
      else .error (.notNumber text)

end Numeral

end ConversionTracking
