import ConversionTracking.Pattern.Reader
import ConversionTracking.Number.Whole
import ConversionTracking.Unicode.Identifier
import ConversionTracking.Unicode.Name

/-!
Reading patterns: alternatives, sets, escapes, repetitions, groups with modes, back references,
conditions on groups, and assertions about what lies ahead or behind.
-/

namespace ConversionTracking

namespace Pattern

namespace Reading

def isOctal (char : Char) : Bool := '0' ≤ char && char ≤ '7'

def isLatinLetter (char : Char) : Bool :=
  ('a' ≤ char && char ≤ 'z') || ('A' ≤ char && char ≤ 'Z')

def octalNumber (chars : List Char) : Nat :=
  chars.foldl (fun total char => total * 8 + (char.toNat - '0'.toNat)) 0

def checkedCode (limit code : Nat) : Reading Nat :=
  if limit < code then refuse else return code

def hexCode (count : Nat) : Reading Nat := do
  let digits ← takeUpTo count Unicode.isHexDigit
  let code := Unicode.hexNumber digits
  if digits.length ≠ count then refuse
  else if 0x80000000 ≤ code then throw .codeTooLarge
  else checkedCode 0x10FFFF code

def namedCode : Reading Nat := do
  if ← skip '{' then
    match Unicode.codeOfName? (← takeName '}') with
    | some code => return code
    | none => refuse
  else refuse

def controlCode? : Char → Option Nat
  | 'a' => some 7
  | 'b' => some 8
  | 't' => some 9
  | 'n' => some 10
  | 'v' => some 11
  | 'f' => some 12
  | 'r' => some 13
  | '\\' => some 92
  | _ => none

def charClass? : Char → Option SetItem
  | 'd' => some (.charClass .digit false)
  | 'D' => some (.charClass .digit true)
  | 's' => some (.charClass .space false)
  | 'S' => some (.charClass .space true)
  | 'w' => some (.charClass .word false)
  | 'W' => some (.charClass .word true)
  | _ => none

def anchor? : Char → Option Anchor
  | 'A' => some .textStart
  | 'Z' => some .textEnd
  | 'b' => some .wordBoundary
  | 'B' => some .wordInside
  | _ => none

def codeEscape (char : Char) : Reading Nat :=
  match char with
  | 'x' => hexCode 2
  | 'u' => hexCode 4
  | 'U' => hexCode 8
  | 'N' => namedCode
  | _ => if isLatinLetter char then refuse else return char.toNat

def setEscape (char : Char) : Reading SetItem := do
  match controlCode? char, charClass? char with
  | some code, _ => return .literal code
  | _, some item => return item
  | none, none =>
      if isOctal char then
        let digits ← takeUpTo 2 isOctal
        return .literal (← checkedCode 0o377 (octalNumber (char :: digits)))
      else if isAsciiDigit char then refuse
      else return .literal (← codeEscape char)

/-- A group may be referred to when it is complete and, while looking behind, was so before. -/
def checkedGroup (group : Nat) : Reading Unit := do
  let progress ← get
  if ((progress.groups[group]?).join).isNone then refuse
  match progress.behind with
  | some known => if known ≤ group then refuse
  | none => return ()

def backreference (group : Nat) : Reading Node := do
  checkedGroup group
  return .backreference group

/-- A digit other than zero starts a group number of one or two digits or an octal escape of three. -/
def numberEscape (first : Char) : Reading Node := do
  let digits := [first]
  let digits := digits ++ (← takeUpTo 1 isAsciiDigit)
  let digits ←
    if digits.length = 2 && digits.all isOctal then
      pure (digits ++ (← takeUpTo 1 isOctal))
    else pure digits
  if digits.length = 3 then return .literal false (← checkedCode 0o377 (octalNumber digits))
  else backreference ((ofDecimalDigits? digits).getD 0)

def escape (char : Char) : Reading Node := do
  match anchor? char, charClass? char, controlCode? char with
  | some place, _, _ => return .anchor place
  | _, some item, _ => return .set false [item]
  | _, _, some code => return .literal false code
  | none, none, none =>
      if char = '0' then return .literal false (octalNumber (← takeUpTo 2 isOctal))
      else if isAsciiDigit char then numberEscape char
      else return .literal false (← codeEscape char)

def setItem : Token → Reading SetItem
  | .escape char => setEscape char
  | .char char => return .literal char.toNat

/-- The items of a set up to its closing bracket, which counts as an item in the first place. -/
def setItems : Nat → Bool → Reading (List SetItem)
  | 0, _ => refuse
  | fuel + 1, isFirst => do
      match ← take with
      | none => refuse
      | some token =>
          if token = .char ']' && !isFirst then return []
          let first ← setItem token
          if ← skip '-' then
            match ← take with
            | none => refuse
            | some (.char ']') => return [first, .literal '-'.toNat]
            | some other =>
                match first, (← setItem other) with
                | .literal low, .literal high =>
                    if high < low then refuse
                    else return .range low high :: (← setItems fuel false)
                | _, _ => refuse
          else return first :: (← setItems fuel false)

def charSet : Reading Node := do
  let negated ← skip '^'
  let items := (← setItems (← size) true).eraseDups
  match items with
  | [.literal code] => return .literal negated code
  | _ => return .set negated items

def count (digits : List Char) : Reading Nat := do
  if wholeDigitLimit < digits.length then throw (.countTooLong digits.length)
  let value := (ofDecimalDigits? digits).getD 0
  if 4294967295 ≤ value then throw .repetitionTooLarge
  return value

/-- The bounds of a repetition in braces, after the opening one; nothing is read when what follows is
no repetition. -/
def bounds? : Reading (Option (Nat × Option Nat)) := do
  let before ← get
  if (← next) = some (.char '}') then return none
  let low ← takeWhile isAsciiDigit
  let high ← if ← skip ',' then takeWhile isAsciiDigit else pure low
  if ← skip '}' then
    let least ← if low.isEmpty then pure 0 else count low
    if high.isEmpty then return some (least, none)
    let greatest ← count high
    if greatest < least then refuse
    return some (least, some greatest)
  else
    modify fun progress => { progress with reader := before.reader }
    return none

def repeatKind : Reading RepeatKind := do
  if ← skip '?' then return .lazy
  else if ← skip '+' then return .possessive
  else return .greedy

def repeatLast (least : Nat) (greatest : Option Nat) (parsed : List Node) :
    Reading (List Node) := do
  match parsed with
  | [] => refuse
  | .anchor _ :: _ => refuse
  | .repetition .. :: _ => refuse
  | part :: before =>
      let kind ← repeatKind
      let body :=
        match part with
        | .group none on off body => if on = {} && off = {} then body else [part]
        | _ => [part]
      return .repetition kind least greatest body :: before

def dissolved (parts : List Node) : List Node :=
  parts.flatMap fun part =>
    match part with
    | .group none on off body => if on = {} && off = {} then body else [part]
    | _ => [part]

private def commonStart : Nat → List (List Node) → List Node × List (List Node)
  | 0, branches => ([], branches)
  | fuel + 1, branches =>
      match branches with
      | (first :: _) :: _ =>
          if branches.all (fun branch => (branch.head?.map (first.sameLeaf ·)).getD false) then
            let (start, rest) := commonStart fuel (branches.map (·.drop 1))
            (first :: start, rest)
          else ([], branches)
      | _ => ([], branches)

private def asSet? : List Node → Option (List SetItem)
  | [.literal false code] => some [.literal code]
  | [.set false items] => some items
  | _ => none

def joinBranches (branches : List (List Node)) : List Node :=
  match branches with
  | [only] => only
  | _ =>
      let (start, rest) := commonStart ((branches.headD []).length + 1) branches
      match rest.mapM asSet? with
      | some items => start ++ [.set false items.flatten.eraseDups]
      | none => start ++ [.alternatives rest]

def openGroup (name : Option String) : Reading Nat := do
  let progress ← get
  let number := progress.groups.length
  match name with
  | some name =>
      if (progress.names.lookup name).isSome then refuse
      set { progress with
        groups := progress.groups ++ [none], names := (name, number) :: progress.names }
  | none => set { progress with groups := progress.groups ++ [none] }
  return number

def closeGroup (number : Nat) (body : List Node) : Reading Unit :=
  modify fun progress =>
    { progress with
      groups := progress.groups.set number (some (Node.widths progress.groups body)) }

def groupName (stop : Char) : Reading String := do
  let name ← takeName stop
  if Unicode.isIdentifier name.toList then return name else refuse

def groupOfName (name : String) : Reading Nat := do
  match (← get).names.lookup name with
  | some number => return number
  | none => refuse

/-- The group of a condition, by name or by number. A number may name a group that comes later. -/
def conditionGroup : Reading Nat := do
  let name ← takeName ')'
  let group ←
    if Unicode.isIdentifier name.toList then groupOfName name
    else
      match WholeText.read name with
      | .error _ => refuse
      | .ok number =>
          if number ≤ 0 ∨ 1073741823 ≤ number then refuse
          else
            modify fun progress =>
              { progress with conditions := number.toNat :: progress.conditions }
            pure number.toNat
  if (← get).behind.isSome then checkedGroup group
  return group

def close : Reading Unit := do
  if !(← skip ')') then refuse

def mode? : Token → Option Modes
  | .char char => Modes.ofLetter? char
  | .escape _ => none

def setsClasses (modes : Modes) : Bool := modes.ascii || modes.unicode

def modesOn : Nat → Token → Modes → Reading (Modes × Char)
  | 0, _, _ => refuse
  | fuel + 1, token, before => do
      match mode? token with
      | none => refuse
      | some mode =>
          let modes := before.union mode
          if setsClasses mode && modes.ascii && modes.unicode then refuse
          match ← take with
          | none => refuse
          | some (.char ')') => return (modes, ')')
          | some (.char '-') => return (modes, '-')
          | some (.char ':') => return (modes, ':')
          | some other => modesOn fuel other modes

def modesOff : Nat → Token → Modes → Reading Modes
  | 0, _, _ => refuse
  | fuel + 1, token, before => do
      match mode? token with
      | none => refuse
      | some mode =>
          if setsClasses mode then refuse
          let modes := before.union mode
          match ← take with
          | none => refuse
          | some (.char ':') => return modes
          | some other => modesOff fuel other modes

def groupModes (first : Char) : Reading (Option (Modes × Modes)) := do
  let (on, stop) ←
    if first = '-' then pure ({}, '-') else modesOn (← size) (.char first) {}
  if stop = ')' then
    modify fun progress => { progress with modes := progress.modes.union on }
    return none
  if on.template then refuse
  let off ←
    if stop = '-' then
      match ← take with
      | none => refuse
      | some token => modesOff (← size) token {}
    else pure {}
  if off.template || on.common off ≠ {} then refuse
  return some (on, off)

def skipComment : Nat → Reading Unit
  | 0 => refuse
  | fuel + 1 => do
      match ← take with
      | none => refuse
      | some (.char ')') => return ()
      | some _ => skipComment fuel

def skipLine : Nat → Reading Unit
  | 0 => return ()
  | fuel + 1 => do
      match ← take with
      | none | some (.char '\n') => return ()
      | some _ => skipLine fuel

private def isLayout (char : Char) : Bool := " \t\n\r\x0b\x0c".toList.contains char

inductive Opening where
  | capture (name : Option String)
  | plain (on off : Modes)
  | atomic
  | look (behind negated : Bool)
  | condition
  | backreference (group : Nat)
  | comment
  | globalModes

def namedOpening : Reading Opening := do
  if ← skip '<' then return .capture (some (← groupName '>'))
  else if ← skip '=' then
    let group ← groupOfName (← groupName ')')
    checkedGroup group
    return .backreference group
  else refuse

def opening : Reading Opening := do
  if !(← skip '?') then return .capture none
  match ← take with
  | some (.char 'P') => namedOpening
  | some (.char ':') => return .plain {} {}
  | some (.char '#') => return .comment
  | some (.char '=') => return .look false false
  | some (.char '!') => return .look false true
  | some (.char '<') =>
      match ← take with
      | some (.char '=') => return .look true false
      | some (.char '!') => return .look true true
      | _ => refuse
  | some (.char '(') => return .condition
  | some (.char '>') => return .atomic
  | some (.char char) =>
      if char = '-' || (Modes.ofLetter? char).isSome then
        match ← groupModes char with
        | some (on, off) => return .plain on off
        | none => return .globalModes
      else refuse
  | _ => refuse

mutual

def alternation : Nat → Bool → Bool → Reading (List Node)
  | 0, _, _ => refuse
  | fuel + 1, verbose, isWhole => do
      return joinBranches (← branches fuel verbose isWhole true)

def branches : Nat → Bool → Bool → Bool → Reading (List (List Node))
  | 0, _, _, _ => refuse
  | fuel + 1, verbose, isWhole, isFirst => do
      let branch ← sequence fuel verbose (isWhole && isFirst) []
      if ← skip '|' then
        let progress ← get
        let verbose := if isWhole then progress.modes.verbose else verbose
        return branch :: (← branches fuel verbose isWhole false)
      else return [branch]

/-- Parts in a row. `mayStart` holds where modes for the whole pattern may stand, and `parsed` is in
reverse order. -/
def sequence : Nat → Bool → Bool → List Node → Reading (List Node)
  | 0, _, _, _ => refuse
  | fuel + 1, verbose, mayStart, parsed => do
      match ← next with
      | none => return dissolved parsed.reverse
      | some token =>
          if token = .char '|' || token = .char ')' then return dissolved parsed.reverse
          let _ ← take
          let continueWith (part : Node) := sequence fuel verbose mayStart (part :: parsed)
          let repeated (least : Nat) (greatest : Option Nat) := do
            sequence fuel verbose mayStart (← repeatLast least greatest parsed)
          match token with
          | .escape char => continueWith (← escape char)
          | .char char =>
              if verbose && isLayout char then sequence fuel verbose mayStart parsed
              else if verbose && char = '#' then
                skipLine (← size)
                sequence fuel verbose mayStart parsed
              else
                match char with
                | '[' => continueWith (← charSet)
                | '.' => continueWith .any
                | '^' => continueWith (.anchor .lineStart)
                | '$' => continueWith (.anchor .lineEnd)
                | '?' => repeated 0 (some 1)
                | '*' => repeated 0 none
                | '+' => repeated 1 none
                | '{' =>
                    match ← bounds? with
                    | some (least, greatest) => repeated least greatest
                    | none => continueWith (.literal false char.toNat)
                | '(' =>
                    match ← opening with
                    | .comment =>
                        skipComment (← size)
                        sequence fuel verbose mayStart parsed
                    | .globalModes =>
                        let progress ← get
                        if mayStart && parsed.isEmpty then
                          sequence fuel progress.modes.verbose mayStart parsed
                        else refuse
                    | start => continueWith (← grouped fuel verbose start)
                | _ => continueWith (.literal false char.toNat)

def grouped : Nat → Bool → Opening → Reading Node
  | 0, _, _ => refuse
  | fuel + 1, verbose, start => do
      match start with
      | .backreference group => return .backreference group
      | .look false negated =>
          let body ← alternation fuel verbose false
          close
          return .lookAhead negated body
      | .look true negated =>
          let outer := (← get).behind
          modify fun progress =>
            { progress with behind := some (outer.getD progress.groups.length) }
          let body ← alternation fuel verbose false
          modify fun progress => { progress with behind := outer }
          close
          return .lookBehind negated (Node.widths (← get).groups body) body
      | .condition =>
          let group ← conditionGroup
          let yes ← sequence fuel verbose false []
          let hasNo ← skip '|'
          let no ← if hasNo then sequence fuel verbose false [] else pure []
          if (← next) = some (.char '|') then refuse
          close
          return .conditional group yes no hasNo
      | .atomic =>
          let body ← alternation fuel verbose false
          close
          return .atomic body
      | .plain on off =>
          let inner := (verbose || on.verbose) && !off.verbose
          let body ← alternation fuel inner false
          close
          return .group none on off body
      | .capture name =>
          let number ← openGroup name
          let body ← alternation fuel verbose false
          close
          closeGroup number body
          return .group (some number) {} {} body
      | .comment | .globalModes => refuse

end

end Reading

def parse (modes : Modes) (text : String) : Except Fault Pattern := do
  let chars := text.toList
  let start : Progress :=
    { reader := ← Reader.ofChars chars, modes, groups := [some .zero], names := [],
      behind := none, conditions := [] }
  let (body, progress) ←
    (Reading.alternation (4 * chars.length + 8) modes.verbose true).run start
  if progress.modes.ascii && progress.modes.unicode then throw .incompatibleModes
  if progress.reader.next.isSome then throw .malformed
  if progress.conditions.any (progress.groups.length ≤ ·) then throw .malformed
  if !Node.areSound progress.modes.template body then throw .malformed
  return {
    modes := progress.modes
    groupCount := progress.groups.length
    width := Node.widths progress.groups body
    body }

end Pattern

end ConversionTracking
