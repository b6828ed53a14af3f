/-!
Patterns of regular expressions as trees, and the least and greatest number of characters that a
part of a pattern can match.
-/

namespace ConversionTracking

namespace Pattern

inductive Fault where
  | malformed
  | repetitionTooLarge
  | incompatibleModes
  | codeTooLarge
  | countTooLong (digits : Nat)
deriving DecidableEq, Repr

structure Modes where
  ignoreCase : Bool := false
  multiline : Bool := false
  dotAll : Bool := false
  verbose : Bool := false
  ascii : Bool := false
  unicode : Bool := false
  template : Bool := false
deriving DecidableEq, Repr, Inhabited

namespace Modes

def union (left right : Modes) : Modes where
  ignoreCase := left.ignoreCase || right.ignoreCase
  multiline := left.multiline || right.multiline
  dotAll := left.dotAll || right.dotAll
  verbose := left.verbose || right.verbose
  ascii := left.ascii || right.ascii
  unicode := left.unicode || right.unicode
  template := left.template || right.template

def without (left right : Modes) : Modes where
  ignoreCase := left.ignoreCase && !right.ignoreCase
  multiline := left.multiline && !right.multiline
  dotAll := left.dotAll && !right.dotAll
  verbose := left.verbose && !right.verbose
  ascii := left.ascii && !right.ascii
  unicode := left.unicode && !right.unicode
  template := left.template && !right.template

def common (left right : Modes) : Modes where
  ignoreCase := left.ignoreCase && right.ignoreCase
  multiline := left.multiline && right.multiline
  dotAll := left.dotAll && right.dotAll
  verbose := left.verbose && right.verbose
  ascii := left.ascii && right.ascii
  unicode := left.unicode && right.unicode
  template := left.template && right.template

/-- The modes inside a group that turns some on and some off. A choice of character classes replaces
the outer choice. -/
def within (outer turnedOn turnedOff : Modes) : Modes :=
  let base :=
    if turnedOn.ascii || turnedOn.unicode then { outer with ascii := false, unicode := false }
    else outer
  (base.union turnedOn).without turnedOff

def ofLetter? : Char → Option Modes
  | 'i' => some { ignoreCase := true }
  | 'm' => some { multiline := true }
  | 's' => some { dotAll := true }
  | 'x' => some { verbose := true }
  | 'a' => some { ascii := true }
  | 'u' => some { unicode := true }
  | 't' => some { template := true }
  | _ => none

def letters (modes : Modes) : String :=
  (if modes.ignoreCase then "i" else "") ++ (if modes.multiline then "m" else "")
    ++ (if modes.dotAll then "s" else "") ++ (if modes.verbose then "x" else "")

end Modes

inductive CharClass where
  | digit
  | space
  | word
deriving DecidableEq, Repr

inductive SetItem where
  | literal (code : Nat)
  | range (first last : Nat)
  | charClass (members : CharClass) (negated : Bool)
deriving DecidableEq, Repr

inductive Anchor where
  | lineStart
  | textStart
  | lineEnd
  | textEnd
  | wordBoundary
  | wordInside
deriving DecidableEq, Repr

inductive RepeatKind where
  | greedy
  | lazy
  | possessive
deriving DecidableEq, Repr

structure Width where
  least : Nat
  greatest : Nat
deriving DecidableEq, Repr, Inhabited

inductive Node where
  | literal (negated : Bool) (code : Nat)
  | any
  | set (negated : Bool) (items : List SetItem)
  | anchor (place : Anchor)
  | backreference (group : Nat)
  | group (number : Option Nat) (turnedOn turnedOff : Modes) (body : List Node)
  | atomic (body : List Node)
  | alternatives (branches : List (List Node))
  | repetition (kind : RepeatKind) (least : Nat) (greatest : Option Nat) (body : List Node)
  | lookAhead (negated : Bool) (body : List Node)
  | lookBehind (negated : Bool) (width : Width) (body : List Node)
  | conditional (group : Nat) (yes no : List Node) (hasNo : Bool)
deriving Inhabited

def widthLimit : Nat := 0x10000000000000000

namespace Width

def zero : Width := ⟨0, 0⟩

def one : Width := ⟨1, 1⟩

def add (left right : Width) : Width := ⟨left.least + right.least, left.greatest + right.greatest⟩

def either (left right : Width) : Width :=
  ⟨min left.least right.least, max left.greatest right.greatest⟩

def capped (width : Width) : Width := ⟨min width.least widthLimit, min width.greatest widthLimit⟩

def repeated (width : Width) (least : Nat) (greatest : Option Nat) : Width where
  least := width.least * least
  greatest :=
    match greatest with
    | some bound => width.greatest * bound
    | none => if width.greatest = 0 then 0 else widthLimit

end Width

namespace Node

mutual

def width (groups : List (Option Width)) : Node → Width
  | .literal .. | .any | .set .. => .one
  | .anchor _ | .lookAhead .. | .lookBehind .. => .zero
  | .backreference number => (groups[number]?.join).getD .zero
  | .group _ _ _ body | .atomic body => widths groups body
  | .alternatives branches => branchWidths groups branches
  | .repetition _ least greatest body => (widths groups body).repeated least greatest
  | .conditional _ yes no hasNo =>
      let chosen := widths groups yes
      if hasNo then chosen.either (widths groups no) else { chosen with least := 0 }

def widths (groups : List (Option Width)) (parts : List Node) : Width :=
  (sumWidths groups parts).capped

def sumWidths (groups : List (Option Width)) : List Node → Width
  | [] => .zero
  | part :: rest => (width groups part).add (sumWidths groups rest)

def branchWidths (groups : List (Option Width)) : List (List Node) → Width
  | [] => ⟨widthLimit, 0⟩
  | branch :: rest => (widths groups branch).either (branchWidths groups rest)

end

mutual

/-- The rules on a whole part that do not depend on the order of reading: what is looked for behind
has one width, and no repetition stands where repetitions are refused. -/
def isSound (template : Bool) : Node → Bool
  | .literal .. | .any | .set .. | .anchor _ | .backreference _ => true
  | .group _ _ _ body | .atomic body | .lookAhead _ body => areSound template body
  | .alternatives branches => areBranchesSound template branches
  | .repetition _ _ _ body => !template && areSound template body
  | .lookBehind _ width body =>
      width.least == width.greatest && width.least < 0x100000000 && areSound template body
  | .conditional _ yes no _ => areSound template yes && areSound template no

def areSound (template : Bool) : List Node → Bool
  | [] => true
  | part :: rest => isSound template part && areSound template rest

def areBranchesSound (template : Bool) : List (List Node) → Bool
  | [] => true
  | branch :: rest => areSound template branch && areBranchesSound template rest

end

def sameLeaf : Node → Node → Bool
  | .literal leftNegated left, .literal rightNegated right =>
      leftNegated == rightNegated && left == right
  | .any, .any => true
  | .set leftNegated left, .set rightNegated right => leftNegated == rightNegated && left == right
  | .anchor left, .anchor right => left == right
  | .backreference left, .backreference right => left == right
  | _, _ => false

end Node

end Pattern

structure Pattern where
  modes : Pattern.Modes
  groupCount : Nat
  width : Pattern.Width
  body : List Pattern.Node

end ConversionTracking
