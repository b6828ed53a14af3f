import ConversionTracking.Number.Digits
import ConversionTracking.Yaml.Cursor

/-!
Scalars in indented lines. Literal ones keep their line breaks; folded ones join lines that do not
start with a blank. The header says what becomes of the breaks at the end.
-/

namespace ConversionTracking.Yaml

namespace Block

inductive Chomping where
  | strip
  | clip
  | keep
deriving DecidableEq, Repr

structure Header where
  chomping : Chomping
  increment : Option Nat
deriving DecidableEq, Repr

def chomping? : Scan (Option Chomping) := do
  match ← Scan.peek with
  | some '+' =>
      Scan.skip 1
      return some .keep
  | some '-' =>
      Scan.skip 1
      return some .strip
  | _ => return none

def increment? : Scan (Option Nat) := do
  match (← Scan.peek).bind asciiDigit? with
  | some 0 => Scan.malformed
  | some digit =>
      Scan.skip 1
      return some digit
  | none => return none

def header : Scan Header := do
  let first ← chomping?
  let increment ← increment?
  let second ← if first.isSome then pure none else chomping?
  if !endsField (← Scan.peek) then Scan.malformed
  else
    Scan.endLine
    return ⟨((first <|> second).getD .clip), increment⟩

def leadingBreaks : Nat → Nat → Scan (List Char × Nat)
  | 0, _ => Scan.malformed
  | fuel + 1, widest => do
      Scan.skipWhile (· == ' ')
      let width := max widest (← get).column
      match ← Scan.lineBreak? with
      | some char =>
          let (breaks, widest) ← leadingBreaks fuel width
          return (char :: breaks, widest)
      | none => return ([], width)

def skipIndent (indent : Nat) : Scan Unit := do
  let missing := indent - (← get).column
  let spaces := ((← get).rest.take missing).takeWhile (· == ' ')
  Scan.skip spaces.length

def breaks (indent : Nat) : Nat → Scan (List Char)
  | 0 => Scan.malformed
  | fuel + 1 => do
      skipIndent indent
      match ← Scan.lineBreak? with
      | some char => return char :: (← breaks indent fuel)
      | none => return []

private def startsBlank (char : Option Char) : Bool := char == some ' ' || char == some '\t'

def joint (isFolded : Bool) (lineBreak : Option Char) (blankLines : List Char)
    (blankBefore blankAfter : Bool) : List Char :=
  if isFolded && lineBreak == some '\n' && !blankBefore && !blankAfter then
    if blankLines.isEmpty then [' '] else []
  else lineBreak.toList

/-- The lines from here on, after `before`: the text, the break at the end of the last line and the
blank lines after it. -/
def lines (isFolded : Bool) (indent : Nat) :
    Nat → List Char → Scan (List Char × Option Char × List Char)
  | 0, _ => Scan.malformed
  | fuel + 1, before => do
      let blankBefore := startsBlank (← Scan.peek)
      let text ← Scan.takeWhile (!isBreak ·)
      let lineBreak ← Scan.lineBreak?
      let blankLines ← breaks indent fuel
      let after ← Scan.peek
      if (← get).column = indent ∧ after.isSome then
        let join := joint isFolded lineBreak blankLines blankBefore (startsBlank after)
        let (others, last, trailing) ← lines isFolded indent fuel blankLines
        return (before ++ text ++ join ++ others, last, trailing)
      else return (before ++ text, lineBreak, blankLines)

def scan (isFolded : Bool) (outer : Int) : Scan String := do
  Scan.skip 1
  let header ← header
  let least := (max (outer + 1) 1).toNat
  let fuel := (← get).rest.length + 1
  let (leading, indent) ←
    match header.increment with
    | none => do
        let (leading, widest) ← leadingBreaks fuel 0
        pure (leading, max least widest)
    | some increment => do
        let indent := least + increment - 1
        pure (← breaks indent fuel, indent)
  let (text, last, trailing) ←
    if (← get).column = indent ∧ (← Scan.peek).isSome then lines isFolded indent fuel leading
    else pure ([], none, leading)
  let ending :=
    match header.chomping with
    | .strip => []
    | .clip => last.toList
    | .keep => last.toList ++ trailing
  return String.ofList (text ++ ending)

end Block

end ConversionTracking.Yaml
