import ConversionTracking.Pattern.Parser
import ConversionTracking.Pattern.Matching
import ConversionTracking.Unicode.Word

/-!
Patterns between delimiters with letters for modes after them, such as `/^\/order\//i`. Any other
text is a pattern as it stands.
-/

namespace ConversionTracking

namespace Pattern

def closingDelimiter : Char → Char
  | '{' => '}'
  | '<' => '>'
  | opening => opening

def opensDelimited (char : Char) : Bool :=
  !Unicode.isAlphanumeric char && !"\\ ^(.[".toList.contains char

def modifier? : Char → Option Modes
  | 'i' => some { ignoreCase := true }
  | 'm' => some { multiline := true }
  | 's' => some { dotAll := true }
  | 'x' => some { verbose := true }
  | 'u' => some {}
  | _ => none

def modifiers? (chars : List Char) : Option Modes :=
  (chars.mapM modifier?).map fun modes => modes.foldl Modes.union {}

def splitLast (char : Char) (chars : List Char) : Option (List Char × List Char) :=
  let tail := (chars.reverse.takeWhile (· ≠ char)).reverse
  if tail.length < chars.length then
    some (chars.take (chars.length - tail.length - 1), tail)
  else none

/-- The pattern between the delimiters and the modes of the letters after them. The closing delimiter
is the last one in the text. -/
def delimited? : List Char → Option (List Char × Modes)
  | opening :: rest =>
      if opensDelimited opening then
        match splitLast (closingDelimiter opening) rest with
        | some (body, tail) => (modifiers? tail).map fun modes => (body, modes)
        | none => none
      else none
  | [] => none

def source (text : String) : String × Modes :=
  match delimited? text.toList with
  | some (body, modes) => (String.ofList body, modes)
  | none => (text, {})

def compile (text : String) : Except Fault Pattern := parse (source text).2 (source text).1

end Pattern

end ConversionTracking
