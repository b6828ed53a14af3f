import ConversionTracking.Pattern.Syntax
import ConversionTracking.Unicode.Blank
import ConversionTracking.Unicode.Digit
import ConversionTracking.Unicode.Word
import ConversionTracking.Unicode.Case

/-!
Which characters a literal, a set or a class of characters accepts, with and without regard to case.
-/

namespace ConversionTracking

namespace Pattern

def CharClass.contains (ascii : Bool) (members : CharClass) (code : Nat) : Bool :=
  let char := Char.ofNat code
  match members, ascii with
  | .digit, true => 48 ≤ code && code ≤ 57
  | .digit, false => Unicode.isDecimal char
  | .space, true => (9 ≤ code && code ≤ 13) || code == 32
  | .space, false => Unicode.isBlank char
  | .word, true => code < 128 && Unicode.isWord char
  | .word, false => Unicode.isWord char

namespace Modes

def lower (modes : Modes) (code : Nat) : Nat :=
  if modes.ascii then Unicode.asciiLowerCode code else Unicode.lowerCode code

def isCased (modes : Modes) (code : Nat) : Bool :=
  if modes.ascii then Unicode.isAsciiCasedCode code else Unicode.isCasedCode code

def siblings (modes : Modes) (code : Nat) : List Nat :=
  if modes.ascii then [] else Unicode.siblingsOf code

def preimages (modes : Modes) (code : Nat) : List Nat :=
  if modes.ascii then
    if 97 ≤ code && code ≤ 122 then [code, code - 32]
    else if 65 ≤ code && code ≤ 90 then [] else [code]
  else Unicode.lowerPreimages code

end Modes

namespace SetItem

def contains (modes : Modes) (code : Nat) : SetItem → Bool
  | .literal member => member == code
  | .range first last => first ≤ code && code ≤ last
  | .charClass members negated => members.contains modes.ascii code != negated

/-- Some member has an upper and a lower case. Characters beyond the first 65536 count as cased. -/
def hasCased (modes : Modes) : SetItem → Bool
  | .literal member => modes.isCased member || 0xFFFF < modes.lower member
  | .range first last =>
      0xFFFF < last ||
        (if modes.ascii then (first ≤ 90 && 65 ≤ last) || (first ≤ 122 && 97 ≤ last)
        else Unicode.hasCasedCode first last)
  | .charClass .. => false

/-- Membership of a lower case character without regard to case. Single members beyond the first
65536 characters are taken as written, and ranges that reach there are tested in either case. -/
def containsLower (modes : Modes) (code : Nat) : SetItem → Bool
  | .literal member =>
      let lowered := modes.lower member
      if 0xFFFF < lowered then member == code
      else lowered == code || (modes.siblings lowered).contains code
  | .range first last =>
      let inside := (code :: modes.siblings code).any fun lowered =>
        (modes.preimages lowered).any fun member =>
          first ≤ member && member ≤ last && member ≤ 0xFFFF
      let upper := Unicode.upperCode code
      inside || (0xFFFF < last
        && ((first ≤ code && code ≤ last) || (first ≤ upper && upper ≤ last)))
  | .charClass members negated => members.contains modes.ascii code != negated

end SetItem

def setContains (modes : Modes) (items : List SetItem) (code : Nat) : Bool :=
  if modes.ignoreCase && items.any (·.hasCased modes) then
    items.any (·.containsLower modes (modes.lower code))
  else items.any (·.contains modes code)

def literalAccepts (modes : Modes) (literal code : Nat) : Bool :=
  if modes.ignoreCase && modes.isCased literal then
    let lowered := modes.lower literal
    let given := modes.lower code
    lowered == given || (modes.siblings lowered).contains given
  else literal == code

def sameForReference (modes : Modes) (left right : Char) : Bool :=
  if modes.ignoreCase then modes.lower left.toNat == modes.lower right.toNat else left == right

end Pattern

end ConversionTracking
