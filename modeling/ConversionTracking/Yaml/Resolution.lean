import ConversionTracking.Calendar.Instant
import ConversionTracking.Number.Digits

/-!
The types of plain scalars: which texts spell nothing, a truth value, a number, a date or a mark.
-/

namespace ConversionTracking.Yaml

inductive Kind where
  | null
  | bool
  | int
  | float
  | binary
  | timestamp
  | text
  | sequence
  | mapping
  | set
  | orderedMap
  | pairs
  | merge
  | value
deriving DecidableEq, Repr

namespace Kind

def tagStart : String := "tag:yaml.org,2002:"

def word : Kind → String
  | .null => "null"
  | .bool => "bool"
  | .int => "int"
  | .float => "float"
  | .binary => "binary"
  | .timestamp => "timestamp"
  | .text => "str"
  | .sequence => "seq"
  | .mapping => "map"
  | .set => "set"
  | .orderedMap => "omap"
  | .pairs => "pairs"
  | .merge => "merge"
  | .value => "value"

def all : List Kind :=
  [.null, .bool, .int, .float, .binary, .timestamp, .text, .sequence, .mapping, .set, .orderedMap,
    .pairs, .merge, .value]

def ofTag? (tag : String) : Option Kind := all.find? fun kind => tagStart ++ kind.word == tag

end Kind

namespace Resolution

def allOf (isWanted : Char → Bool) (chars : List Char) : Bool := !chars.isEmpty && chars.all isWanted

def isDigitOrLine (char : Char) : Bool := isAsciiDigit char || char == '_'

def isDigits (chars : List Char) : Bool :=
  chars.head?.any isAsciiDigit && chars.all isDigitOrLine

def isSign (char : Char) : Bool := char == '+' || char == '-'

def unsigned : List Char → List Char
  | [] => []
  | first :: rest => if isSign first then rest else first :: rest

def isSixtieth : List Char → Bool
  | [digit] => isAsciiDigit digit
  | [tens, digit] => '0' ≤ tens && tens ≤ '5' && isAsciiDigit digit
  | _ => false

def areSixtieths : List Char → List Char → Bool
  | [], part => isSixtieth part.reverse
  | ':' :: rest, part => isSixtieth part.reverse && areSixtieths rest []
  | char :: rest, part => areSixtieths rest (char :: part)

def isSexagesimal (isWhole : List Char → Bool) (chars : List Char) : Bool :=
  isWhole (chars.takeWhile (· != ':'))
    && match chars.dropWhile (· != ':') with
      | _ :: rest => areSixtieths rest []
      | [] => false

def startsPositive (chars : List Char) : Bool :=
  chars.head?.any (fun char => '1' ≤ char && char ≤ '9') && chars.all isDigitOrLine

def isHexDigitOrLine (char : Char) : Bool :=
  isDigitOrLine char || ('a' ≤ char && char ≤ 'f') || ('A' ≤ char && char ≤ 'F')

def isInt (chars : List Char) : Bool :=
  let body := unsigned chars
  let ofBase : Bool :=
    match body with
    | ['0'] => true
    | '0' :: 'b' :: digits => allOf (fun char => char == '0' || char == '1' || char == '_') digits
    | '0' :: 'x' :: digits => allOf isHexDigitOrLine digits
    | '0' :: digits => allOf (fun char => ('0' ≤ char && char ≤ '7') || char == '_') digits
    | _ => false
  ofBase || startsPositive body || isSexagesimal startsPositive body

def isExponent : List Char → Bool
  | [] => true
  | mark :: sign :: digits =>
      (mark == 'e' || mark == 'E') && isSign sign && allOf isAsciiDigit digits
  | _ => false

def isFloat (chars : List Char) : Bool :=
  let body := unsigned chars
  let whole := body.takeWhile (· != '.')
  let pointed : Bool :=
    match body.dropWhile (· != '.') with
    | _ :: fraction =>
        (isDigits whole && isExponent (fraction.dropWhile isDigitOrLine))
          || (isSexagesimal isDigits whole && fraction.all isDigitOrLine)
    | [] => false
  let pointFirst : Bool :=
    match chars with
    | '.' :: fraction =>
        isDigits (fraction.takeWhile isDigitOrLine) && isExponent (fraction.dropWhile isDigitOrLine)
    | _ => false
  pointed || pointFirst || [".inf", ".Inf", ".INF"].contains (String.ofList body)
    || [".nan", ".NaN", ".NAN"].contains (String.ofList chars)

def truthWords : List String :=
  ["yes", "Yes", "YES", "no", "No", "NO", "true", "True", "TRUE", "false", "False", "FALSE",
    "on", "On", "ON", "off", "Off", "OFF"]

def nullWords : List String := ["", "~", "null", "Null", "NULL"]

end Resolution

structure Timestamp where
  year : Nat
  month : Nat
  day : Nat
  time : Option (Nat × Nat × Nat)
  micros : Nat
  offset : Option Int
  isPadded : Bool
deriving DecidableEq, Repr

namespace Timestamp

def shortNumber? (chars : List Char) : Option (Nat × Nat × List Char) :=
  let digits := (chars.take 2).takeWhile isAsciiDigit
  (ofDecimalDigits? digits).map fun value => (value, digits.length, chars.drop digits.length)

def fixedNumber? (width : Nat) (chars : List Char) : Option (Nat × List Char) :=
  if (chars.take width).length = width then
    (ofDecimalDigits? (chars.take width)).map fun value => (value, chars.drop width)
  else none

def expect? (mark : Char) : List Char → Option (List Char)
  | [] => none
  | first :: rest => if first = mark then some rest else none

private def isSpace (char : Char) : Bool := char == ' ' || char == '\t'

def fraction : List Char → Nat × List Char
  | '.' :: rest =>
      let digits := rest.takeWhile isAsciiDigit
      let six := (digits ++ List.replicate 6 '0').take 6
      ((ofDecimalDigits? six).getD 0, rest.drop digits.length)
  | rest => (0, rest)

def zone? (chars : List Char) : Option (Option Int) :=
  match chars.dropWhile isSpace with
  | [] => if chars.isEmpty then some none else none
  | ['Z'] => some (some 0)
  | sign :: rest => do
      if !(sign == '+' || sign == '-') then none
      let (hours, _, rest) ← shortNumber? rest
      let minutes ←
        match rest with
        | [] => some 0
        | ':' :: rest => do
            let (minutes, rest) ← fixedNumber? 2 rest
            if rest.isEmpty then some minutes else none
        | _ => none
      let size : Int := (hours * 60 + minutes : Nat)
      some (some (if sign == '-' then -size else size))

def clock? (chars : List Char) : Option ((Nat × Nat × Nat) × Nat × Option Int) := do
  let afterMark ←
    match chars with
    | [] => none
    | first :: rest =>
        if first = 'T' ∨ first = 't' then some rest
        else if isSpace first then some (rest.dropWhile isSpace)
        else none
  let (hour, _, rest) ← shortNumber? afterMark
  let rest ← expect? ':' rest
  let (minute, rest) ← fixedNumber? 2 rest
  let rest ← expect? ':' rest
  let (second, rest) ← fixedNumber? 2 rest
  let (micros, rest) := fraction rest
  let offset ← zone? rest
  some ((hour, minute, second), micros, offset)

def ofChars? (chars : List Char) : Option Timestamp := do
  let (year, rest) ← fixedNumber? 4 chars
  let rest ← expect? '-' rest
  let (month, monthWidth, rest) ← shortNumber? rest
  let rest ← expect? '-' rest
  let (day, dayWidth, rest) ← shortNumber? rest
  let isPadded := monthWidth = 2 ∧ dayWidth = 2
  match rest with
  | [] => some { year, month, day, time := none, micros := 0, offset := none, isPadded }
  | _ => do
      let (time, micros, offset) ← clock? rest
      some { year, month, day, time := some time, micros, offset, isPadded }

end Timestamp

namespace Resolution

def withoutLastBreak (chars : List Char) : List Char :=
  if chars.getLast? == some '\n' then chars.dropLast else chars

def kindOf (text : String) : Kind :=
  let chars := withoutLastBreak text.toList
  let shown := String.ofList chars
  if text == "\n" then .text
  else if truthWords.contains shown then .bool
  else if isFloat chars then .float
  else if isInt chars then .int
  else if shown == "<<" then .merge
  else if nullWords.contains shown then .null
  else if (Timestamp.ofChars? chars).any fun stamp => stamp.isPadded || stamp.time.isSome then
    .timestamp
  else if shown == "=" then .value
  else .text

end Resolution

end ConversionTracking.Yaml
