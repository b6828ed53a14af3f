/-!
Decimal digits of natural numbers as characters.
-/

namespace ConversionTracking

def decimalDigits (value : Nat) : List Char := Nat.toDigits 10 value

def decimalText (value : Nat) : String := String.ofList (decimalDigits value)

def intText (value : Int) : String :=
  if value < 0 then "-" ++ decimalText value.natAbs else decimalText value.natAbs

def paddedText (width value : Nat) : String :=
  let digits := decimalDigits value
  String.ofList (List.replicate (width - digits.length) '0' ++ digits)

def asciiDigit? (char : Char) : Option Nat :=
  if '0' ≤ char ∧ char ≤ '9' then some (char.toNat - '0'.toNat) else none

def isAsciiDigit (char : Char) : Bool := (asciiDigit? char).isSome

def ofDigitValues (values : List Nat) : Nat := values.foldl (fun total digit => total * 10 + digit) 0

def ofDecimalDigits? (chars : List Char) : Option Nat :=
  if chars.isEmpty then none else (chars.mapM asciiDigit?).map ofDigitValues

end ConversionTracking
