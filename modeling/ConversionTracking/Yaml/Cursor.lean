import ConversionTracking.Fault

/-!
Reading a YAML text from left to right: the characters it may hold, its line breaks, and the place
that has been reached.
-/

namespace ConversionTracking.Yaml

inductive Fault where
  | malformed
  | inconvertible (cause : ConversionTracking.Fault)

/-- Writes every line break of two characters, and every carriage return, as a line feed. -/
def unifyBreaks : List Char → List Char
  | [] => []
  | '\r' :: '\n' :: rest => '\n' :: unifyBreaks rest
  | '\r' :: rest => '\n' :: unifyBreaks rest
  | char :: rest => char :: unifyBreaks rest

/-- Characters that a text may hold: no control characters but tab, line feed and next line. -/
def isReadable (char : Char) : Bool :=
  let code := char.toNat
  code == 0x9 || code == 0xA || code == 0xD || (0x20 ≤ code && code ≤ 0x7E) || code == 0x85
    || (0xA0 ≤ code && code ≤ 0xFFFD) || 0x10000 ≤ code

def byteOrderMark : Char := '\uFEFF'

def isBreak (char : Char) : Bool :=
  char == '\n' || char == '\u0085' || char == '\u2028' || char == '\u2029'

structure Cursor where
  rest : List Char
  index : Nat
  line : Nat
  column : Nat

namespace Cursor

def start (chars : List Char) : Cursor := ⟨chars, 0, 0, 0⟩

def next (cursor : Cursor) : Cursor :=
  match cursor.rest with
  | [] => cursor
  | char :: rest =>
      if isBreak char then ⟨rest, cursor.index + 1, cursor.line + 1, 0⟩
      else
        ⟨rest, cursor.index + 1, cursor.line,
          if char == byteOrderMark then cursor.column else cursor.column + 1⟩

def advance (cursor : Cursor) : Nat → Cursor
  | 0 => cursor
  | count + 1 => cursor.next.advance count

end Cursor

abbrev Scan (α : Type) := StateT Cursor (Except Fault) α

namespace Scan

def malformed {α : Type} : Scan α := throw .malformed

def peekAt (distance : Nat) : Scan (Option Char) := return (← get).rest[distance]?

def peek : Scan (Option Char) := peekAt 0

def skip (count : Nat) : Scan Unit := modify (·.advance count)

def takeWhile (isWanted : Char → Bool) : Scan (List Char) := do
  let taken := (← get).rest.takeWhile isWanted
  skip taken.length
  return taken

def skipWhile (isSkipped : Char → Bool) : Scan Unit := do
  let _ ← takeWhile isSkipped

/-- A line break, passed over. All but the separators of lines and paragraphs are line feeds. -/
def lineBreak? : Scan (Option Char) := do
  match ← peek with
  | some char =>
      if isBreak char then
        skip 1
        return some (if char == '\u0085' then '\n' else char)
      else return none
  | none => return none

def skipComment : Scan Unit := do
  if (← peek) == some '#' then skipWhile (!isBreak ·)

def endLine : Scan Unit := do
  skipWhile (· == ' ')
  skipComment
  match ← peek with
  | none => return ()
  | some char =>
      if isBreak char then
        let _ ← lineBreak?
      else malformed

end Scan

/-- The end of the text, or a character that ends a word: a blank, a tab or a line break. -/
def endsWord (char : Option Char) : Bool :=
  char.all fun char => char == ' ' || char == '\t' || isBreak char

def endsField (char : Option Char) : Bool := char.all fun char => char == ' ' || isBreak char

def separatesDocuments (rest : List Char) : Bool :=
  (rest.take 3 == ['-', '-', '-'] || rest.take 3 == ['.', '.', '.']) && endsWord rest[3]?

end ConversionTracking.Yaml
