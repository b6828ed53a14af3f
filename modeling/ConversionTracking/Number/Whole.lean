import ConversionTracking.Number.Numeral

/-!
Whole numbers in text: white space, a sign and digits, which are decimal digits of any script or
letters in larger bases, with single underscores between digits.
-/

namespace ConversionTracking

namespace WholeText

def digitValues? (afterDigit : Bool) : List Char → Option (List Nat)
  | [] => if afterDigit then some [] else none
  | '_' :: rest => if afterDigit then digitValues? false rest else none
  | char :: rest => do
      let value ← Unicode.decimalValue? char
      let values ← digitValues? true rest
      some (value :: values)

def read (text : String) : Except NumberFault Int :=
  let (negative, digits) := Numeral.splitSign (Unicode.trimEnds Unicode.isWhiteSpace text.toList)
  match digitValues? false digits with
  | none => .error (.notWhole 10 text)
  | some values =>
      if wholeDigitLimit < values.length then .error (.tooManyDigits values.length)
      else .ok (if negative then -(ofDigitValues values : Int) else ofDigitValues values)

def baseValue? (base : Nat) (char : Char) : Option Nat :=
  let value? :=
    if 'a' ≤ char ∧ char ≤ 'z' then some (char.toNat - 'a'.toNat + 10)
    else if 'A' ≤ char ∧ char ≤ 'Z' then some (char.toNat - 'A'.toNat + 10)
    else Unicode.decimalValue? char
  value?.bind fun value => if value < base then some value else none

def baseLetter? : Nat → Option Char
  | 2 => some 'b'
  | 8 => some 'o'
  | 16 => some 'x'
  | _ => none

def withoutBaseMark (base : Nat) : List Char → List Char
  | '0' :: letter :: rest =>
      if baseLetter? base == some letter.toLower then rest else '0' :: letter :: rest
  | chars => chars

def readBase (base : Nat) (text : String) : Except NumberFault Int :=
  let (negative, signless) := Numeral.splitSign (Unicode.trimEnds Unicode.isWhiteSpace text.toList)
  let digits := withoutBaseMark base signless
  match digits.mapM (baseValue? base) with
  | none => .error (.notWhole base text)
  | some values =>
      if values.isEmpty then .error (.notWhole base text)
      else
        let size := values.foldl (fun total digit => total * base + digit) 0
        .ok (if negative then -(size : Int) else size)

end WholeText

end ConversionTracking
