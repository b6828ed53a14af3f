/-!
Bytes in Base64. Characters outside the alphabet are passed over, and nothing is read after the
padding of a group.
-/

namespace ConversionTracking.Yaml

namespace Base64

def sixBits? (char : Char) : Option Nat :=
  if 'A' ≤ char ∧ char ≤ 'Z' then some (char.toNat - 'A'.toNat)
  else if 'a' ≤ char ∧ char ≤ 'z' then some (char.toNat - 'a'.toNat + 26)
  else if '0' ≤ char ∧ char ≤ '9' then some (char.toNat - '0'.toNat + 52)
  else if char = '+' then some 62
  else if char = '/' then some 63
  else none

/-- A group of four that has been begun: the number of its characters that were read, the bits that
belong to no byte yet, and the number of padding characters since. -/
structure Group where
  count : Nat
  bits : Nat
  padding : Nat
deriving DecidableEq, Repr

/-- The bytes from here on. A group may end after two characters with two paddings, or after three
with one. -/
def bytes? (group : Group) : List Char → Option (List UInt8)
  | [] => if group.count = 0 then some [] else none
  | '=' :: rest =>
      if 2 ≤ group.count then
        if 4 ≤ group.count + group.padding + 1 then some []
        else bytes? { group with padding := group.padding + 1 } rest
      else bytes? group rest
  | char :: rest =>
      match sixBits? char with
      | none => bytes? group rest
      | some value =>
          match group.count with
          | 0 => bytes? ⟨1, value, 0⟩ rest
          | 1 => (bytes? ⟨2, value % 16, 0⟩ rest).map ((group.bits * 4 + value / 16).toUInt8 :: ·)
          | 2 => (bytes? ⟨3, value % 4, 0⟩ rest).map ((group.bits * 16 + value / 4).toUInt8 :: ·)
          | _ => (bytes? ⟨0, 0, 0⟩ rest).map ((group.bits * 64 + value).toUInt8 :: ·)

def decode? (text : String) : Option (List UInt8) :=
  if text.toList.all fun char => char.toNat < 128 then bytes? ⟨0, 0, 0⟩ text.toList else none

end Base64

end ConversionTracking.Yaml
