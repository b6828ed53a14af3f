import ConversionTracking.Number.Digits
import ConversionTracking.Yaml.Quoted
import ConversionTracking.Yaml.Token

/-!
What stands beside the content of nodes: anchors and aliases, tags, and the directives before a
document.
-/

namespace ConversionTracking.Yaml

def isNameChar (char : Char) : Bool :=
  ('0' ≤ char && char ≤ '9') || ('A' ≤ char && char ≤ 'Z') || ('a' ≤ char && char ≤ 'z')
    || char == '-' || char == '_'

def tagMarks : List Char := ";/?:@&=+$,.!~*'()[]".toList

def isTagChar (char : Char) : Bool := isNameChar char || tagMarks.contains char

def anchorEnds : List Char := "?:,]%@\x60\x7d".toList

namespace Property

def name : Scan String := do
  let chars ← Scan.takeWhile isNameChar
  if chars.isEmpty then Scan.malformed else return String.ofList chars

def anchorName : Scan String := do
  Scan.skip 1
  let text ← name
  let after ← Scan.peek
  if endsWord after || after.any anchorEnds.contains then return text else Scan.malformed

def escapedBytes : Nat → Scan (List UInt8)
  | 0 => Scan.malformed
  | fuel + 1 => do
      if (← Scan.peek) == some '%' then
        Scan.skip 1
        let code ← Scan.hexNumber 2
        return code.toUInt8 :: (← escapedBytes fuel)
      else return []

def tagChars : Nat → Scan (List Char)
  | 0 => Scan.malformed
  | fuel + 1 => do
      let plain ← Scan.takeWhile isTagChar
      if (← Scan.peek) == some '%' then
        let bytes ← escapedBytes fuel
        match String.fromUTF8? ⟨bytes.toArray⟩ with
        | some text => return plain ++ text.toList ++ (← tagChars fuel)
        | none => Scan.malformed
      else return plain

def tagText : Scan String := do
  let index := (← get).index
  let chars ← tagChars ((← get).rest.length + 1)
  if (← get).index = index then Scan.malformed else return String.ofList chars

def tagHandle : Scan String := do
  match ← Scan.peek with
  | some '!' =>
      Scan.skip 1
      if (← Scan.peek) == some ' ' then return "!"
      else
        let chars ← Scan.takeWhile isNameChar
        if (← Scan.peek) == some '!' then
          Scan.skip 1
          return "!" ++ String.ofList chars ++ "!"
        else Scan.malformed
  | _ => Scan.malformed

def hasHandle (rest : List Char) : Bool :=
  ((rest.drop 1).takeWhile fun char => !(char == ' ' || isBreak char)).contains '!'

def tag : Scan WrittenTag := do
  let after ← Scan.peekAt 1
  let written ←
    if after == some '<' then do
      Scan.skip 2
      let text ← tagText
      if (← Scan.peek) == some '>' then
        Scan.skip 1
        pure ⟨none, text⟩
      else Scan.malformed
    else if endsWord after then do
      Scan.skip 1
      pure ⟨none, "!"⟩
    else if hasHandle (← get).rest then do
      let handle ← tagHandle
      pure ⟨some handle, ← tagText⟩
    else do
      Scan.skip 1
      pure ⟨some "!", ← tagText⟩
  if endsField (← Scan.peek) then return written else Scan.malformed

def number : Scan Nat := do
  match ofDecimalDigits? (← Scan.takeWhile isAsciiDigit) with
  | some value => return value
  | none => Scan.malformed

def version : Scan Directive := do
  Scan.skipWhile (· == ' ')
  let major ← number
  if (← Scan.peek) == some '.' then
    Scan.skip 1
    let _ ← number
    if endsField (← Scan.peek) then return .version major else Scan.malformed
  else Scan.malformed

def handleExpansion : Scan Directive := do
  Scan.skipWhile (· == ' ')
  let handle ← tagHandle
  if (← Scan.peek) == some ' ' then
    Scan.skipWhile (· == ' ')
    let expansion ← tagText
    if endsField (← Scan.peek) then return .tagHandle handle expansion else Scan.malformed
  else Scan.malformed

def directive : Scan Directive := do
  Scan.skip 1
  let text ← name
  if !endsField (← Scan.peek) then Scan.malformed
  else
    let result ←
      match text with
      | "YAML" => version
      | "TAG" => handleExpansion
      | _ => do
          Scan.skipWhile (!isBreak ·)
          pure .other
    Scan.endLine
    return result

end Property

end ConversionTracking.Yaml
