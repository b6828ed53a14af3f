import ConversionTracking.Pattern.Syntax

/-!
The characters of a pattern, read one unit at a time: a backslash and the character after it are one
unit. One unit is always looked at ahead, so a backslash at the end is refused as soon as the unit
before it is taken.
-/

namespace ConversionTracking

namespace Pattern

inductive Token where
  | char (value : Char)
  | escape (value : Char)
deriving DecidableEq, Repr

def Token.chars : Token → List Char
  | .char value => [value]
  | .escape value => ['\\', value]

structure Reader where
  next : Option Token
  rest : List Char

structure Progress where
  reader : Reader
  modes : Modes
  /-- Widths by group number; an open group has none, and the whole pattern stands at zero. -/
  groups : List (Option Width)
  names : List (String × Nat)
  behind : Option Nat
  conditions : List Nat

abbrev Reading := StateT Progress (Except Fault)

def Reader.ofChars : List Char → Except Fault Reader
  | [] => .ok ⟨none, []⟩
  | ['\\'] => .error .malformed
  | '\\' :: char :: rest => .ok ⟨some (.escape char), rest⟩
  | char :: rest => .ok ⟨some (.char char), rest⟩

namespace Reading

def refuse {α : Type} : Reading α := throw .malformed

def next : Reading (Option Token) := return (← get).reader.next

def take : Reading (Option Token) := do
  let progress ← get
  let reader ← Reader.ofChars progress.reader.rest
  set { progress with reader }
  return progress.reader.next

def skip (char : Char) : Reading Bool := do
  if (← next) = some (.char char) then
    let _ ← take
    return true
  else return false

def size : Reading Nat := return (← get).reader.rest.length + 1

def takeWhileFuel (keep : Char → Bool) : Nat → Reading (List Char)
  | 0 => return []
  | fuel + 1 => do
      match ← next with
      | some (.char char) =>
          if keep char then
            let _ ← take
            return char :: (← takeWhileFuel keep fuel)
          else return []
      | _ => return []

def takeUpTo (limit : Nat) (keep : Char → Bool) : Reading (List Char) := takeWhileFuel keep limit

def takeWhile (keep : Char → Bool) : Reading (List Char) := do takeWhileFuel keep (← size)

def takeUntilFuel (stop : Char) : Nat → Reading (List Char)
  | 0 => refuse
  | fuel + 1 => do
      match ← take with
      | none => refuse
      | some token =>
          if token = .char stop then return []
          else return token.chars ++ (← takeUntilFuel stop fuel)

/-- The characters before the given one, which is taken too. There has to be at least one. -/
def takeName (stop : Char) : Reading String := do
  let chars ← takeUntilFuel stop (← size)
  if chars.isEmpty then refuse else return String.ofList chars

end Reading

end Pattern

end ConversionTracking
