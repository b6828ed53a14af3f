import ConversionTracking.Value.Basic
import ConversionTracking.Number.Shortest
import ConversionTracking.Text.Quoted
import ConversionTracking.Calendar.Fault

/-!
Values as text: scalars plainly, containers with their parts as they would be written in a literal.
-/

namespace ConversionTracking

namespace Value

private def quotedByte (quote : Char) (byte : UInt8) : List Char :=
  let code := byte.toNat
  let char := Char.ofNat code
  if char = quote ∨ char = '\\' then ['\\', char]
  else if char = '\n' then ['\\', 'n']
  else if char = '\r' then ['\\', 'r']
  else if char = '\t' then ['\\', 't']
  else if 32 ≤ code && code < 127 then [char]
  else
    let digits := Nat.toDigits 16 code
    '\\' :: 'x' :: List.replicate (2 - digits.length) '0' ++ digits

private def quotedBytes (bytes : List UInt8) : String :=
  let quote := if bytes.contains 39 && !bytes.contains 34 then '"' else '\''
  String.ofList ('b' :: quote :: bytes.flatMap (quotedByte quote) ++ [quote])

private def calledWith (name : String) (arguments : List String) : String :=
  name ++ "(" ++ ", ".intercalate arguments ++ ")"

private def dateFields (date : Date) : List String :=
  [decimalText date.year, decimalText date.month, decimalText date.day]

private def zoneLiteral (offset : Int) : String :=
  if offset = 0 then "datetime.timezone.utc"
  else calledWith "datetime.timezone" [CalendarFault.spanText offset]

private def instantLiteral (instant : Instant) : String :=
  let seconds := instant.micros / Calendar.microsPerSecond
  let micros := instant.micros % Calendar.microsPerSecond
  let clock := [decimalText (seconds / 3600), decimalText (seconds / 60 % 60)]
  let tail :=
    if micros ≠ 0 then [decimalText (seconds % 60), decimalText micros]
    else if seconds % 60 ≠ 0 then [decimalText (seconds % 60)] else []
  let zone := instant.offset.toList.map fun offset => "tzinfo=" ++ zoneLiteral offset
  calledWith "datetime.datetime" (dateFields instant.date ++ clock ++ tail ++ zone)

private def scalarLiteral : Value → String
  | .null => "None"
  | .bool value => if value then "True" else "False"
  | .int value => intText value
  | .float value => value.text
  | .decimal value => calledWith "Decimal" [quotedText value.text]
  | .text value => quotedText value
  | .bytes value => quotedBytes value
  | .date value => calledWith "datetime.date" (dateFields value)
  | .instant value => instantLiteral value
  | .object identity => "<object object at " ++ decimalText identity ++ ">"
  | _ => ""

mutual

def literal : Value → String
  | .list items => "[" ++ ", ".intercalate (itemLiterals items) ++ "]"
  | .tuple items =>
      let inner := itemLiterals items
      "(" ++ ", ".intercalate inner ++ (if inner.length = 1 then ",)" else ")")
  | .set items =>
      let inner := itemLiterals items
      if inner.isEmpty then "set()" else "\x7b" ++ ", ".intercalate inner ++ "\x7d"
  | .map entries => "\x7b" ++ ", ".intercalate (entryLiterals entries) ++ "\x7d"
  | .reference id => "namespace(id=" ++ id.literal ++ ")"
  | scalar => scalarLiteral scalar

def itemLiterals : List Value → List String
  | [] => []
  | item :: rest => item.literal :: itemLiterals rest

def entryLiterals : List (Value × Value) → List String
  | [] => []
  | (key, value) :: rest => (key.literal ++ ": " ++ value.literal) :: entryLiterals rest

end

/-- A value as plain text: texts, decimals and moments as they are, anything else as a literal. -/
def plainText : Value → String
  | .text value => value
  | .decimal value => value.text
  | .date value => value.text
  | .instant value => value.textWith " "
  | value => value.literal

end Value

end ConversionTracking
