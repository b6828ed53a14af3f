import ConversionTracking.Definition.Issue
import ConversionTracking.Number.Fault
import ConversionTracking.Unicode.Blank
import ConversionTracking.Value.Equality
import ConversionTracking.Value.Text

/-!
Reading single fields of a definition from values. A field of one kind accepts values of related
kinds that stand for the same thing, such as numbers in text. All fields of a definition are read
before it is refused, and the problems of all of them are kept.
-/

namespace ConversionTracking

inductive Checked (α : Type) where
  | valid (value : α)
  | invalid (issues : List Issue)

namespace Checked

def map {α β : Type} (change : α → β) : Checked α → Checked β
  | .valid value => .valid (change value)
  | .invalid issues => .invalid issues

def apply {α β : Type} (change : Checked (α → β)) (argument : Checked α) : Checked β :=
  match change, argument with
  | .valid change, .valid value => .valid (change value)
  | .valid _, .invalid issues => .invalid issues
  | .invalid issues, .valid _ => .invalid issues
  | .invalid left, .invalid right => .invalid (left ++ right)

instance : Applicative Checked where
  map := map
  pure := .valid
  seq change argument := apply change (argument ())

def refuse {α : Type} (value : Value) (problem : Problem) : Checked α :=
  .invalid [⟨[], problem, value.isWritable⟩]

def within {α : Type} (place : Place) : Checked α → Checked α
  | .valid value => .valid value
  | .invalid issues => .invalid (issues.map fun issue => { issue with place := place :: issue.place })

def issues {α : Type} : Checked α → List Issue
  | .valid _ => []
  | .invalid issues => issues

def ofReading {α : Type} (value : Value) : Except Problem α → Checked α
  | .ok reading => .valid reading
  | .error problem => refuse value problem

end Checked

abbrev Fields := List (String × Value)

namespace Fields

def toValue (fields : Fields) : Value := .map (fields.map fun field => (.text field.1, field.2))

def insert (fields : Fields) (name : String) (value : Value) : Fields :=
  if List.any fields (·.1 == name) then
    List.map (fun field => if field.1 == name then (name, value) else field) fields
  else fields ++ [(name, value)]

def ofList (pairs : List (String × Value)) : Fields :=
  pairs.foldl (fun fields pair => insert fields pair.1 pair.2) []

end Fields

namespace FieldKind

def textual? : Value → Option String
  | .text value => some value
  | .bytes value => String.fromUTF8? ⟨value.toArray⟩
  | _ => none

def isTextual : Value → Bool
  | .text _ | .bytes _ => true
  | _ => false

def text (value : Value) : Checked String :=
  match textual? value with
  | some text => .valid text
  | none => .refuse value (if isTextual value then .textUnreadable else .notText)

def splitSign : List Char → Bool × List Char
  | '-' :: rest => (true, rest)
  | '+' :: rest => (false, rest)
  | chars => (false, chars)

def underscoredDigits? (afterDigit : Bool) : List Char → Option (List Nat)
  | [] => if afterDigit then some [] else none
  | '_' :: rest => if afterDigit then underscoredDigits? false rest else none
  | char :: rest => do
      let value ← asciiDigit? char
      let values ← underscoredDigits? true rest
      some (value :: values)

/-- The digits after the zeros at the start, among which any number of underscores may stand. The
last zero stands for itself when no other digits follow. -/
def withoutLeadingZeros (digits : List Char) : List Char :=
  if digits.head? = some '0' then
    let rest := digits.dropWhile fun char => char = '0' || char = '_'
    if rest.isEmpty then digits.drop (digits.length - 1) else rest
  else digits

def wholeOfText? (chars : List Char) : Option Int := do
  let (negative, body) := splitSign chars
  let digits := body.takeWhile (· ≠ '.')
  let fraction := body.drop digits.length
  let values ← underscoredDigits? false (withoutLeadingZeros digits)
  let zeros := fraction.drop 1
  if fraction.isEmpty || (!zeros.isEmpty && zeros.all (· = '0')) then
    let size := ofDigitValues values
    some (if negative then -(size : Int) else size)
  else none

def wholeOfBinary (value : Binary64) : Except Problem Int :=
  match value with
  | .finite .. =>
      match value.toInt? with
      | none => .error .fractionalWhole
      | some whole =>
          if -0x8000000000000000 < whole ∧ whole < 0x8000000000000000 then .ok whole
          else .error .wholeTooLong
  | _ => .error .notFinite

def wholeOfDecimal (value : Decimal) : Except Problem Int :=
  match value.fraction? with
  | none => .error .notFinite
  | some (num, den) => if num % den = 0 then .ok (num / den) else .error .fractionalWhole

def readWhole (value : Value) : Except Problem Int :=
  match value with
  | .int value => .ok value
  | .bool value => .ok (if value then 1 else 0)
  | .float value => wholeOfBinary value
  | .decimal value => wholeOfDecimal value
  | _ =>
      if isTextual value then
        match textual? value with
        | none => .error .wholeUnreadable
        | some text =>
            let chars := Unicode.trimEnds Unicode.isWhiteSpace text.toList
            if wholeDigitLimit < text.utf8ByteSize then .error .wholeTooLong
            else
              match wholeOfText? chars with
              | some whole => .ok whole
              | none => .error .wholeUnreadable
      else .error .notWhole

def whole (value : Value) : Checked Int := .ofReading value (readWhole value)

private def exponentOf? : List Char → Option Int
  | [] => some 0
  | mark :: rest =>
      if mark = 'e' ∨ mark = 'E' then
        let (negative, digits) := splitSign rest
        (ofDecimalDigits? digits).map fun size => if negative then -(size : Int) else size
      else none

/-- A number in text: a sign and a word for an infinity or NaN, or ASCII digits with at most one point
and an exponent. -/
def numberOfText? (chars : List Char) : Option Binary64 := do
  let (negative, body) := splitSign chars
  let word := String.ofList (body.map Char.toLower)
  if word = "inf" ∨ word = "infinity" then some (.infinite negative)
  else if word = "nan" then some .nan
  else
    let digits := body.takeWhile isAsciiDigit
    let afterDigits := body.drop digits.length
    let hasPoint := afterDigits.head? == some '.'
    let fraction := if hasPoint then (afterDigits.drop 1).takeWhile isAsciiDigit else []
    let tail := if hasPoint then afterDigits.drop (fraction.length + 1) else afterDigits
    let size ← ofDecimalDigits? (digits ++ fraction)
    let exponent ← exponentOf? tail
    some (.ofDecimal negative size (exponent - fraction.length))

def dropUnderscores? (chars : List Char) : Option (List Char) :=
  let pieces := (chars.splitBy fun left right => (left = '_') == (right = '_'))
  let alone := pieces.all fun piece => piece.head? != some '_' || piece.length == 1
  if chars.contains '_' && alone && chars.head? != some '_' && chars.getLast? != some '_' then
    some (chars.filter (· ≠ '_'))
  else none

def readNumber (value : Value) : Except Problem Binary64 :=
  match value with
  | .float value => .ok value
  | .bool value => .ok (.ofNat (if value then 1 else 0))
  | .int value => (Binary64.ofInt? value).elim (.error .notNumber) .ok
  | .decimal value => if value.isSignaling then .error .notNumber else .ok value.toBinary64
  | _ =>
      if isTextual value then
        let read := do
          let text ← textual? value
          (numberOfText? (Unicode.trimEnds Unicode.isWhiteSpace text.toList)).or
            ((dropUnderscores? text.toList).bind numberOfText?)
        read.elim (.error .numberUnreadable) .ok
      else .error .notNumber

def number (value : Value) : Checked Binary64 := .ofReading value (readNumber value)

def truthOfWord? (text : String) : Option Bool :=
  let word := String.ofList (text.toList.map Char.toLower)
  if ["0", "off", "f", "false", "n", "no"].contains word then some false
  else if ["1", "on", "t", "true", "y", "yes"].contains word then some true
  else none

def truthOfWhole : Int → Except Problem Bool
  | 0 => .ok false
  | 1 => .ok true
  | value =>
      if -0x8000000000000000 ≤ value ∧ value < 0x8000000000000000 then .error .truthUnreadable
      else .error .notTruth

def readTruth (value : Value) : Except Problem Bool :=
  let ofBinary (number : Binary64) : Except Problem Bool :=
    match wholeOfBinary number with
    | .ok whole => truthOfWhole whole
    | .error _ => .error .notTruth
  match value with
  | .bool value => .ok value
  | .int value => truthOfWhole value
  | .float value => ofBinary value
  | .decimal value => if value.isSignaling then .error .notTruth else ofBinary value.toBinary64
  | _ =>
      if isTextual value then
        match (textual? value).bind truthOfWord? with
        | some truth => .ok truth
        | none => .error .truthUnreadable
      else .error .notTruth

def truth (value : Value) : Checked Bool := .ofReading value (readTruth value)

def keyPlace : Value → Place
  | .text value => .field value
  | .bool value => .index (if value then 1 else 0)
  | .int value =>
      if -0x8000000000000000 ≤ value ∧ value < 0x8000000000000000 then .index value
      else .field (intText value)
  | key => .field key.literal

def fieldName (key : Value) : Checked String :=
  ((text key).within (.field "[key]")).within (keyPlace key)

def named : List (Value × Value) → Checked (List (String × Value))
  | [] => pure []
  | (key, value) :: rest => (fun name rest => (name, value) :: rest) <$> fieldName key <*> named rest

def fields : Value → Checked Fields
  | .map entries => Fields.ofList <$> named entries
  | other => .refuse other .notMap

def each {α : Type} (check : Value → Checked α) : Nat → List Value → Checked (List α)
  | _, [] => pure []
  | position, item :: rest =>
      (fun first rest => first :: rest) <$> (check item).within (.index position)
        <*> each check (position + 1) rest

def items {α : Type} (check : Value → Checked α) (value : Value) : Checked (List α) :=
  match value with
  | .list items | .tuple items | .set items => each check 0 items
  | other => .refuse other .notList

def optional {α : Type} (check : Value → Checked α) (value : Value) : Checked (Option α) :=
  if value.isNull then pure none else some <$> check value

def name (value : Value) : Checked String :=
  match text value with
  | .invalid issues => .invalid issues
  | .valid name =>
      if name.isEmpty then .refuse value .textTooShort
      else if 255 < name.length then .refuse value .textTooLong
      else .valid name

def choice (expected : String) (value : Value) : Checked Unit :=
  match value with
  | .text given => if given = expected then pure () else .refuse value (.notChoice expected)
  | _ => .refuse value (.notChoice expected)

end FieldKind

namespace Entries

def required {α : Type} (entries : Entries) (name : String) (check : Value → Checked α) :
    Checked α :=
  match field? entries name with
  | some value => (check value).within (.field name)
  | none => (Checked.refuse (.map entries) .missing).within (.field name)

def withDefault {α : Type} (entries : Entries) (name : String) (missing : α)
    (check : Value → Checked α) : Checked α :=
  match field? entries name with
  | some value => (check value).within (.field name)
  | none => pure missing

def optional {α : Type} (entries : Entries) (name : String) (check : Value → Checked α) :
    Checked (Option α) :=
  withDefault entries name none (FieldKind.optional check)

end Entries

end ConversionTracking
