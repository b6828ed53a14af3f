import ConversionTracking.Yaml.Cursor

/-!
Scalars without quotes. They end before a comment, before a colon that ends a key, before the marks
of flow collections within these, and at a line that is not indented enough.
-/

namespace ConversionTracking.Yaml

def isFlowMark (char : Char) : Bool :=
  char == ',' || char == '[' || char == ']' || char == '{' || char == '}'

namespace Plain

def endsRun (inFlow : Bool) (char : Char) (after : Option Char) : Bool :=
  endsWord (some char)
    || (char == ':' && (endsWord after || (inFlow && after.any isFlowMark)))
    || (inFlow && (char == '?' || isFlowMark char))

def run (inFlow : Bool) : List Char → List Char
  | [] => []
  | char :: rest => if endsRun inFlow char rest.head? then [] else char :: run inFlow rest

/-- Line breaks with the blanks before them; none when a mark between documents follows one. -/
def moreBreaks : Nat → Scan (Option (List Char))
  | 0 => Scan.malformed
  | fuel + 1 => do
      Scan.skipWhile (· == ' ')
      match ← Scan.lineBreak? with
      | none => return some []
      | some char =>
          if separatesDocuments (← get).rest then return none
          else return (← moreBreaks fuel).map (char :: ·)

/-- What separates a run from the next one, and whether a line was ended. Nothing separates them when
the scalar ends here. -/
def separation (fuel : Nat) : Scan (List Char × Bool) := do
  let spaces ← Scan.takeWhile (· == ' ')
  match ← Scan.lineBreak? with
  | none => return (spaces, false)
  | some first =>
      if separatesDocuments (← get).rest then return ([], true)
      else
        match ← moreBreaks fuel with
        | none => return ([], true)
        | some more =>
            if first != '\n' then return (first :: more, true)
            else if more.isEmpty then return ([' '], true)
            else return (more, true)

/-- The runs of a scalar, and whether it ended after a line break. A run is preceded by what
separates it from the one before. -/
def runs (inFlow : Bool) (indent : Int) : Nat → List Char → Bool → Scan (List Char × Bool)
  | 0, _, _ => Scan.malformed
  | fuel + 1, before, afterBreak => do
      if (← Scan.peek) == some '#' then return ([], afterBreak)
      else
        let text := run inFlow (← get).rest
        if text.isEmpty then return ([], afterBreak)
        else
          Scan.skip text.length
          let (space, brokeLine) ← separation fuel
          let column := (← get).column
          if space.isEmpty || (← Scan.peek) == some '#' || (!inFlow && column < indent) then
            return (before ++ text, brokeLine)
          else
            let (others, brokeLast) ← runs inFlow indent fuel space brokeLine
            return (before ++ text ++ others, brokeLast)

/-- A scalar with the least indentation of its further lines, and whether it ended after a line
break. -/
def scan (inFlow : Bool) (indent : Int) : Scan (String × Bool) := do
  let (chars, afterBreak) ← runs inFlow indent ((← get).rest.length + 1) [] false
  return (String.ofList chars, afterBreak)

end Plain

end ConversionTracking.Yaml
