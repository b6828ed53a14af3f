/-!
Rounding quotients of natural numbers to the nearest whole number, a half going to the even
neighbour.
-/

namespace ConversionTracking

/-- `num / den` to the nearest whole number; a quotient half way between two goes to the even one. -/
def roundHalfEven (num den : Nat) : Nat :=
  let whole := num / den
  let rest := 2 * (num % den)
  if rest < den then whole
  else if den < rest then whole + 1
  else whole + whole % 2

end ConversionTracking
