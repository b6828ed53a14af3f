import ConversionTracking.Number.Rounding

/-!
Double-precision numbers as exact values: a signed whole number of units of 2⁻¹⁰⁷⁴, an infinity or
NaN. Every operation rounds its exact result to the nearest representable number.
-/

namespace ConversionTracking

@[irreducible] def Binary64.unitsLimit : Nat := Nat.pow 2 2098

inductive Binary64 where
  | finite (negative : Bool) (units : Nat) (inRange : units < Binary64.unitsLimit)
  | infinite (negative : Bool)
  | nan
deriving DecidableEq, Repr, Inhabited

namespace Binary64

def unitsPerOne : Nat := Nat.pow 2 1074

theorem unitsPerOne_pos : 0 < unitsPerOne := Nat.pow_pos (Nat.zero_lt_succ 1)

theorem unitsLimit_pos : 0 < unitsLimit := by
  unfold unitsLimit
  exact Nat.pow_pos (Nat.zero_lt_succ 1)

def signedZero (negative : Bool) : Binary64 := .finite negative 0 unitsLimit_pos

def roundUnits (num den : Nat) : Nat :=
  let spacing := Nat.pow 2 ((num / den).log2 - 52)
  roundHalfEven num (den * spacing) * spacing

def ofUnits (negative : Bool) (num den : Nat) : Binary64 :=
  let units := roundUnits num den
  if inRange : units < unitsLimit then .finite negative units inRange else .infinite negative

def ofRatio (negative : Bool) (num den : Nat) : Binary64 :=
  ofUnits negative (num * unitsPerOne) den

def zero : Binary64 := signedZero false

def ofNat (value : Nat) : Binary64 := ofRatio false value 1

def bounded? : Binary64 → Option Binary64
  | .infinite _ => none
  | number => some number

def ofInt? (value : Int) : Option Binary64 := bounded? (ofRatio (value < 0) value.natAbs 1)

/-- The nearest number to `± digits · 10 ^ exponent`. Exponents far outside the range are settled
without computing the power: the decimal logarithm of 2 lies between 0.30102 and 0.30103. -/
def ofDecimal (negative : Bool) (digits : Nat) (exponent : Int) : Binary64 :=
  if digits = 0 then signedZero negative
  else
    let least := exponent + (digits.log2 : Int) * 30102 / 100000
    let most := exponent + (digits.log2 : Int) * 30103 / 100000
    if least > 400 then .infinite negative
    else if most < -400 then signedZero negative
    else if exponent < 0 then ofRatio negative digits (Nat.pow 10 exponent.natAbs)
    else ofRatio negative (digits * Nat.pow 10 exponent.toNat) 1

def toUnits? : Binary64 → Option Int
  | .finite negative units _ => some (if negative then -(units : Int) else units)
  | _ => none

def isNaN : Binary64 → Bool
  | .nan => true
  | _ => false

def isZero : Binary64 → Bool
  | .finite _ units _ => units == 0
  | _ => false

def toInt? : Binary64 → Option Int
  | .finite negative units _ =>
      if units % unitsPerOne = 0 then
        let whole := (units / unitsPerOne : Nat)
        some (if negative then -(whole : Int) else whole)
      else none
  | _ => none

def compare? : Binary64 → Binary64 → Option Ordering
  | .nan, _ => none
  | _, .nan => none
  | .infinite left, .infinite right =>
      some (if left == right then .eq else if left then .lt else .gt)
  | .infinite left, _ => some (if left then .lt else .gt)
  | _, .infinite right => some (if right then .gt else .lt)
  | .finite leftSign left _, .finite rightSign right _ =>
      some (compare (if leftSign then -(left : Int) else left)
        (if rightSign then -(right : Int) else right))

def equals (left right : Binary64) : Bool := compare? left right == some .eq

def less (left right : Binary64) : Bool := compare? left right == some .lt

def lessOrEqual (left right : Binary64) : Bool :=
  compare? left right == some .lt || compare? left right == some .eq

def compareInt? (left : Binary64) (right : Int) : Option Ordering :=
  match left with
  | .nan => none
  | .infinite negative => some (if negative then .lt else .gt)
  | .finite negative units _ =>
      some (compare (if negative then -(units : Int) else units) (right * unitsPerOne))

def negate : Binary64 → Binary64
  | .finite negative units inRange => .finite (!negative) units inRange
  | .infinite negative => .infinite (!negative)
  | .nan => .nan

/-- The sum of two finite numbers is rounded from the exact sum; an exact zero is positive unless
both terms are negative zeros. -/
def add : Binary64 → Binary64 → Binary64
  | .nan, _ => .nan
  | _, .nan => .nan
  | .infinite left, .infinite right => if left == right then .infinite left else .nan
  | .infinite left, _ => .infinite left
  | _, .infinite right => .infinite right
  | .finite leftSign left _, .finite rightSign right _ =>
      let sum : Int :=
        (if leftSign then -(left : Int) else left) + (if rightSign then -(right : Int) else right)
      if sum = 0 then signedZero (leftSign && rightSign)
      else ofUnits (sum < 0) sum.natAbs 1

def sub (left right : Binary64) : Binary64 := add left (negate right)

def mul : Binary64 → Binary64 → Binary64
  | .nan, _ => .nan
  | _, .nan => .nan
  | .infinite left, .infinite right => .infinite (left != right)
  | .infinite left, .finite right units _ => if units = 0 then .nan else .infinite (left != right)
  | .finite left units _, .infinite right => if units = 0 then .nan else .infinite (left != right)
  | .finite leftSign left _, .finite rightSign right _ =>
      ofUnits (leftSign != rightSign) (left * right) unitsPerOne

/-- The quotient by a finite number other than zero; any other divisor gives NaN or zero. -/
def div : Binary64 → Binary64 → Binary64
  | .nan, _ => .nan
  | _, .nan => .nan
  | .infinite _, .infinite _ => .nan
  | .infinite left, .finite right _ _ => .infinite (left != right)
  | .finite left _ _, .infinite right => signedZero (left != right)
  | .finite leftSign left _, .finite rightSign right _ =>
      if right = 0 then .nan
      else ofUnits (leftSign != rightSign) (left * unitsPerOne) right

def roundPlaces (places : Nat) : Binary64 → Binary64
  | .finite negative units _ =>
      ofRatio negative (roundHalfEven (units * Nat.pow 10 places) unitsPerOne) (Nat.pow 10 places)
  | number => number

end Binary64

end ConversionTracking
