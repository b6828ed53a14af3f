import ConversionTracking.Number.Digits
import ConversionTracking.Text.Quoted

/-!
What can be wrong when a value is read as a number.
-/

namespace ConversionTracking

inductive NumberFault where
  | tooLarge
  | notNumber (text : String)
  | notWhole (base : Nat) (text : String)
  | tooManyDigits (count : Nat)
  | tooLongToWrite
  | signalingNaN
  | signalingCompared
deriving DecidableEq, Repr

namespace NumberFault

def message : NumberFault → String
  | .tooLarge => "int too large to convert to float"
  | .notNumber text => "could not convert string to float: " ++ quotedText text
  | .notWhole base text =>
      "invalid literal for int() with base " ++ decimalText base ++ ": " ++ quotedText text
  | .tooManyDigits count =>
      "Exceeds the limit (4300 digits) for integer string conversion: value has "
        ++ decimalText count
        ++ " digits; use sys.set_int_max_str_digits() to increase the limit"
  | .tooLongToWrite =>
      "Exceeds the limit (4300 digits) for integer string conversion; "
        ++ "use sys.set_int_max_str_digits() to increase the limit"
  | .signalingNaN => "cannot convert signaling NaN to float"
  | .signalingCompared => "cannot compare signaling NaN"

end NumberFault

/-- Texts of more digits are not read as whole numbers, and whole numbers of more digits are not
written. -/
def wholeDigitLimit : Nat := 4300

def isWritableWhole (value : Int) : Bool := value.natAbs < Nat.pow 10 wholeDigitLimit

end ConversionTracking
