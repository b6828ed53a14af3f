import ConversionTracking.Calendar.Date

/-!
Moments: a day, the microseconds since its midnight and, when the moment is tied to universal time,
the offset of its clock.
-/

namespace ConversionTracking

namespace Calendar

def microsPerSecond : Nat := 1000000

def microsPerDay : Nat := 86400 * microsPerSecond

end Calendar

structure Instant where
  date : Date
  micros : Nat
  micros_lt : micros < Calendar.microsPerDay
  offset : Option Int
deriving DecidableEq

namespace Instant

open Calendar

def startOfDay (date : Date) : Instant := ⟨date, 0, by decide, none⟩

def endOfDay (date : Date) : Instant := ⟨date, microsPerDay - 1, by decide, none⟩

instance : Inhabited Instant := ⟨startOfDay default⟩

def clockMicros (instant : Instant) : Int :=
  (instant.date.number * microsPerDay + instant.micros : Nat)

def compare? (left right : Instant) : Option Ordering :=
  match left.offset, right.offset with
  | none, none => some (compare left.clockMicros right.clockMicros)
  | some leftOffset, some rightOffset =>
      some (compare (left.clockMicros - leftOffset) (right.clockMicros - rightOffset))
  | _, _ => none

def equals (left right : Instant) : Bool := compare? left right == some .eq

def addMicros? (instant : Instant) (delta : Int) : Option Instant :=
  let total := instant.clockMicros + delta
  (Date.ofNumber? (total / microsPerDay)).map fun date =>
    { date
      micros := (total % microsPerDay).toNat
      micros_lt := by
        have positive : (0 : Int) < microsPerDay := by decide
        have lower := Int.emod_nonneg total (show (microsPerDay : Int) ≠ 0 by decide)
        have upper := Int.emod_lt_of_pos total positive
        omega
      offset := instant.offset }

private def clockText (seconds micros : Nat) (alwaysSeconds : Bool) : String :=
  let base := paddedText 2 (seconds / 3600) ++ ":" ++ paddedText 2 (seconds / 60 % 60)
  if micros ≠ 0 then base ++ ":" ++ paddedText 2 (seconds % 60) ++ "." ++ paddedText 6 micros
  else if alwaysSeconds || seconds % 60 ≠ 0 then base ++ ":" ++ paddedText 2 (seconds % 60)
  else base

def offsetText (offset : Int) : String :=
  let size := offset.natAbs
  (if offset < 0 then "-" else "+")
    ++ clockText (size / microsPerSecond) (size % microsPerSecond) false

def textWith (separator : String) (instant : Instant) : String :=
  instant.date.text ++ separator
    ++ clockText (instant.micros / microsPerSecond) (instant.micros % microsPerSecond) true
    ++ (instant.offset.map offsetText).getD ""

def text (instant : Instant) : String := instant.textWith "T"

end Instant

end ConversionTracking
