import ConversionTracking.Unicode.Ranges

/-!
Blank characters: the separators of Unicode 14 with the control characters that separate text.
-/

namespace ConversionTracking.Unicode

def blankRanges : List (Nat × Nat) :=
  [
    (0x9, 0xD), (0x1C, 0x20), (0x85, 0x85), (0xA0, 0xA0), (0x1680, 0x1680), (0x2000, 0x200A),
    (0x2028, 0x2029), (0x202F, 0x202F), (0x205F, 0x205F), (0x3000, 0x3000)
  ]

def isBlank (char : Char) : Bool := inRanges blankRanges char.toNat

def isWhiteSpace (char : Char) : Bool :=
  isBlank char && !(0x1C ≤ char.toNat && char.toNat ≤ 0x1F)

def trimEnds (drop : Char → Bool) (chars : List Char) : List Char :=
  ((chars.dropWhile drop).reverse.dropWhile drop).reverse

end ConversionTracking.Unicode
