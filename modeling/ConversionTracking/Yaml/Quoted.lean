import ConversionTracking.Yaml.Cursor

/-!
Scalars in quotes. Line breaks are folded: one break is a blank, and of more the first is dropped.
Between double quotes a backslash starts an escape; between single quotes a doubled quote stands for
one.
-/

namespace ConversionTracking.Yaml

def escapedChar? : Char → Option Char
  | '0' => some '\x00'
  | 'a' => some '\x07'
  | 'b' => some '\x08'
  | 't' | '\t' => some '\t'
  | 'n' => some '\n'
  | 'v' => some '\x0b'
  | 'f' => some '\x0c'
  | 'r' => some '\r'
  | 'e' => some '\x1b'
  | ' ' => some ' '
  | '"' => some '"'
  | '\\' => some '\\'
  | '/' => some '/'
  | 'N' => some '\u0085'
  | '_' => some '\u00a0'
  | 'L' => some '\u2028'
  | 'P' => some '\u2029'
  | _ => none

def escapeWidth? : Char → Option Nat
  | 'x' => some 2
  | 'u' => some 4
  | 'U' => some 8
  | _ => none

def hexValue? (char : Char) : Option Nat :=
  if '0' ≤ char ∧ char ≤ '9' then some (char.toNat - '0'.toNat)
  else if 'a' ≤ char ∧ char ≤ 'f' then some (char.toNat - 'a'.toNat + 10)
  else if 'A' ≤ char ∧ char ≤ 'F' then some (char.toNat - 'A'.toNat + 10)
  else none

def Scan.hexNumber (count : Nat) : Scan Nat := do
  let digits := (← get).rest.take count
  match digits.mapM hexValue? with
  | some values =>
      if values.length = count then
        Scan.skip count
        return values.foldl (fun total digit => total * 16 + digit) 0
      else Scan.malformed
  | none => Scan.malformed

/-- The character of a code. A surrogate is no character, and its code gives the replacement character. -/
def charOfCode (code : Nat) : Except Fault Char :=
  if 0x110000 ≤ code then .error (.inconvertible (.noCharacter code))
  else if 0xD800 ≤ code ∧ code < 0xE000 then .ok '\uFFFD'
  else .ok (Char.ofNat code)

namespace Quoted

/-- The further breaks of a folded stretch, with the blanks around them passed over. The marks
between documents may not stand at the start of a line. -/
def foldedBreaks : Nat → Scan (List Char)
  | 0 => Scan.malformed
  | fuel + 1 => do
      if separatesDocuments (← get).rest then Scan.malformed
      else
        Scan.skipWhile fun char => char == ' ' || char == '\t'
        match ← Scan.lineBreak? with
        | some char => return char :: (← foldedBreaks fuel)
        | none => return []

def blanks (fuel : Nat) : Scan (List Char) := do
  let spaces ← Scan.takeWhile fun char => char == ' ' || char == '\t'
  match ← Scan.peek with
  | none => Scan.malformed
  | some _ =>
      match ← Scan.lineBreak? with
      | none => return spaces
      | some first =>
          let more ← foldedBreaks fuel
          if first != '\n' then return first :: more
          else if more.isEmpty then return [' ']
          else return more

/-- What an escape stands for, after the backslash. An escaped line break stands for the breaks that
follow it. -/
def escape (fuel : Nat) : Scan (List Char) := do
  match ← Scan.peek with
  | none => Scan.malformed
  | some char =>
      match escapedChar? char, escapeWidth? char with
      | some escaped, _ =>
          Scan.skip 1
          return [escaped]
      | none, some width =>
          Scan.skip 1
          let code ← Scan.hexNumber width
          return [← charOfCode code]
      | none, none =>
          match ← Scan.lineBreak? with
          | some _ => foldedBreaks fuel
          | none => Scan.malformed

def words (isDouble : Bool) : Nat → Scan (List Char)
  | 0 => Scan.malformed
  | fuel + 1 => do
      let plain ← Scan.takeWhile fun char =>
        !(char == '\'' || char == '"' || char == '\\' || char == ' ' || char == '\t'
          || isBreak char)
      match ← Scan.peek, ← Scan.peekAt 1 with
      | some '\'', after =>
          if isDouble then
            Scan.skip 1
            return plain ++ '\'' :: (← words isDouble fuel)
          else if after == some '\'' then
            Scan.skip 2
            return plain ++ '\'' :: (← words isDouble fuel)
          else return plain
      | some '"', _ =>
          if isDouble then return plain
          else
            Scan.skip 1
            return plain ++ '"' :: (← words isDouble fuel)
      | some '\\', _ =>
          Scan.skip 1
          let escaped ← if isDouble then escape fuel else pure ['\\']
          return plain ++ escaped ++ (← words isDouble fuel)
      | _, _ => return plain

def content (isDouble : Bool) : Nat → Scan (List Char)
  | 0 => Scan.malformed
  | fuel + 1 => do
      if (← Scan.peek) == some (if isDouble then '"' else '\'') then return []
      else
        let space ← blanks fuel
        let text ← words isDouble fuel
        return space ++ text ++ (← content isDouble fuel)

def scan (isDouble : Bool) : Scan String := do
  let fuel := (← get).rest.length + 1
  Scan.skip 1
  let first ← words isDouble fuel
  let others ← content isDouble fuel
  Scan.skip 1
  return String.ofList (first ++ others)

end Quoted

end ConversionTracking.Yaml
