import ConversionTracking.Pattern.Characters

/-!
Matching by trying possibilities in order. Each part is given a position, the marks that groups have
left and what has to match after it; the first way in which everything matches wins.
-/

namespace ConversionTracking

namespace Pattern

abbrev Marks := Array (Option Nat)

abbrev Reached := Nat × Marks

abbrev Continuation := Nat → Marks → Option Reached

abbrev Matcher := Nat → Marks → Continuation → Option Reached

namespace Marks

def atStart (marks : Marks) (group position : Nat) : Marks :=
  marks.setIfInBounds (2 * (group - 1)) (some position)

def atEnd (marks : Marks) (group position : Nat) : Marks :=
  marks.setIfInBounds (2 * (group - 1) + 1) (some position)

def span? (marks : Marks) (group : Nat) : Option (Nat × Nat) := do
  let start ← (marks[2 * (group - 1)]?).join
  let finish ← (marks[2 * (group - 1) + 1]?).join
  if start ≤ finish then some (start, finish) else none

end Marks

/-- A bound on the number of turns of a repetition: after the required turns, a turn that matches
nothing is the last one. -/
def turnLimit (subject : Array Char) (least : Nat) : Nat := least + subject.size + 2

def mayRepeat (greatest : Option Nat) (turns : Nat) (last : Option Nat) (position : Nat) : Bool :=
  (match greatest with
    | some bound => turns < bound
    | none => true) && last ≠ some position

def matchGreedy (once : Matcher) (least : Nat) (greatest : Option Nat) :
    Nat → Nat → Option Nat → Matcher
  | 0, _, _, _, _, _ => none
  | fuel + 1, turns, last, position, marks, after =>
      if turns < least then
        once position marks fun next marks =>
          matchGreedy once least greatest fuel (turns + 1) last next marks after
      else
        let more :=
          if mayRepeat greatest turns last position then
            once position marks fun next marks =>
              matchGreedy once least greatest fuel (turns + 1) (some position) next marks after
          else none
        match more with
        | some reached => some reached
        | none => after position marks

def matchLazy (once : Matcher) (least : Nat) (greatest : Option Nat) :
    Nat → Nat → Option Nat → Matcher
  | 0, _, _, _, _, _ => none
  | fuel + 1, turns, last, position, marks, after =>
      if turns < least then
        once position marks fun next marks =>
          matchLazy once least greatest fuel (turns + 1) last next marks after
      else
        match after position marks with
        | some reached => some reached
        | none =>
            if mayRepeat greatest turns last position then
              once position marks fun next marks =>
                matchLazy once least greatest fuel (turns + 1) (some position) next marks after
            else none

def matchPossessive (once : Matcher) (least : Nat) (greatest : Option Nat) :
    Nat → Nat → Option Nat → Nat → Marks → Option Reached
  | 0, _, _, _, _ => none
  | fuel + 1, turns, last, position, marks =>
      if turns < least then
        match once position marks fun next marks => some (next, marks) with
        | none => none
        | some (next, marks) =>
            matchPossessive once least greatest fuel (turns + 1) last next marks
      else if mayRepeat greatest turns last position then
        match once position marks fun next marks => some (next, marks) with
        | none => some (position, marks)
        | some (next, marks) =>
            matchPossessive once least greatest fuel (turns + 1) (some position) next marks
      else some (position, marks)

def isLineBreak (char : Option Char) : Bool := char == some '\n'

def wordAt (modes : Modes) (char : Option Char) : Bool :=
  match char with
  | some char => CharClass.word.contains modes.ascii char.toNat
  | none => false

def charBefore (subject : Array Char) (position : Nat) : Option Char :=
  if position = 0 then none else subject[position - 1]?

def holdsAt (subject : Array Char) (modes : Modes) (position : Nat) : Anchor → Bool
  | .textStart => position == 0
  | .lineStart =>
      position == 0 || (modes.multiline && isLineBreak (charBefore subject position))
  | .textEnd => position == subject.size
  | .lineEnd =>
      position == subject.size ||
        (isLineBreak subject[position]? && (modes.multiline || position + 1 == subject.size))
  | .wordBoundary =>
      subject.size ≠ 0 &&
        wordAt modes (charBefore subject position) != wordAt modes subject[position]?
  | .wordInside =>
      subject.size ≠ 0 &&
        wordAt modes (charBefore subject position) == wordAt modes subject[position]?

def repeatsAt (subject : Array Char) (modes : Modes) (start finish position : Nat) : Bool :=
  (List.range (finish - start)).all fun offset =>
    match subject[start + offset]?, subject[position + offset]? with
    | some left, some right => sameForReference modes left right
    | _, _ => false

def matchChar (subject : Array Char) (accepts : Nat → Bool) : Matcher :=
  fun position marks after =>
    match subject[position]? with
    | some char => if accepts char.toNat then after (position + 1) marks else none
    | none => none

mutual

def matchNode (subject : Array Char) (modes : Modes) : Node → Matcher
  | .literal negated code =>
      matchChar subject fun char => literalAccepts modes code char != negated
  | .any => matchChar subject fun char => modes.dotAll || char ≠ '\n'.toNat
  | .set negated items =>
      matchChar subject fun char => setContains modes items char != negated
  | .anchor place => fun position marks after =>
      if holdsAt subject modes position place then after position marks else none
  | .backreference group => fun position marks after =>
      match marks.span? group with
      | some (start, finish) =>
          if repeatsAt subject modes start finish position then
            after (position + (finish - start)) marks
          else none
      | none => none
  | .group none turnedOn turnedOff body => fun position marks after =>
      matchParts subject (modes.within turnedOn turnedOff) body position marks after
  | .group (some number) turnedOn turnedOff body => fun position marks after =>
      matchParts subject (modes.within turnedOn turnedOff) body position
        (marks.atStart number position)
        fun next marks => after next (marks.atEnd number next)
  | .atomic body => fun position marks after =>
      match matchParts subject modes body position marks fun next marks => some (next, marks) with
      | some (next, marks) => after next marks
      | none => none
  | .alternatives branches => matchBranches subject modes branches
  | .repetition kind least greatest body => fun position marks after =>
      let once := matchParts subject modes body
      let fuel := turnLimit subject least
      match kind with
      | .greedy => matchGreedy once least greatest fuel 0 none position marks after
      | .lazy => matchLazy once least greatest fuel 0 none position marks after
      | .possessive =>
          match matchPossessive once least greatest fuel 0 none position marks with
          | some (next, marks) => after next marks
          | none => none
  | .lookAhead negated body => fun position marks after =>
      match matchParts subject modes body position marks fun next marks => some (next, marks) with
      | some (_, inner) => if negated then none else after position inner
      | none => if negated then after position marks else none
  | .lookBehind negated width body => fun position marks after =>
      let found :=
        if width.least ≤ position then
          matchParts subject modes body (position - width.least) marks
            fun next marks => some (next, marks)
        else none
      match found with
      | some (_, inner) => if negated then none else after position inner
      | none => if negated then after position marks else none
  | .conditional group yes no _ => fun position marks after =>
      if (marks.span? group).isSome then matchParts subject modes yes position marks after
      else matchParts subject modes no position marks after

def matchParts (subject : Array Char) (modes : Modes) : List Node → Matcher
  | [] => fun position marks after => after position marks
  | part :: rest => fun position marks after =>
      matchNode subject modes part position marks fun next marks =>
        matchParts subject modes rest next marks after

def matchBranches (subject : Array Char) (modes : Modes) : List (List Node) → Matcher
  | [] => fun _ _ _ => none
  | branch :: rest => fun position marks after =>
      match matchParts subject modes branch position marks after with
      | some reached => some reached
      | none => matchBranches subject modes rest position marks after

end

def matchAt (pattern : Pattern) (subject : Array Char) (start : Nat) : Option Nat :=
  (matchParts subject pattern.modes pattern.body start
    (Array.replicate (2 * pattern.groupCount) none)
    fun position marks => some (position, marks)).map Prod.fst

def startSet? (modes : Modes) : List Node → Option (Bool × List SetItem)
  | .group _ turnedOn turnedOff body :: _ => startSet? (modes.within turnedOn turnedOff) body
  | .set negated items :: _ =>
      if modes.ignoreCase && items.any (·.hasCased modes) then none else some (negated, items)
  | _ => none

/-- A pattern that starts with a set and matches no empty text is tried only where the set holds the
next character, with character classes as in the modes of the whole pattern. -/
def mayStartAt (pattern : Pattern) (subject : Array Char) (start : Nat) : Bool :=
  if pattern.width.least = 0 then true
  else
    match startSet? pattern.modes pattern.body, subject[start]? with
    | none, _ => true
    | some (negated, items), some char =>
        items.any (·.contains pattern.modes char.toNat) != negated
    | some _, none => false

def search (pattern : Pattern) (subject : String) : Option (Nat × Nat) :=
  let chars := subject.toList.toArray
  (List.range (chars.size + 1)).findSome? fun start =>
    if mayStartAt pattern chars start then
      (matchAt pattern chars start).map fun finish => (start, finish)
    else none

end Pattern

end ConversionTracking
