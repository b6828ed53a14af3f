import ConversionTracking.Definition.Field
import ConversionTracking.Fault

/-!
What a column holds after a value is written to it: whole numbers of 64 bits, text, numbers, truth
values, and documents in JSON. A column here holds values of its own type only. The database is laxer
with rows that are inserted past the definitions of goals: it keeps a number with a fraction or a text
that is no number in a column of whole numbers as it is given, and bytes in one of text. Such a row is
refused here.
-/

namespace ConversionTracking

def checkWord (value : Int) : Except Fault Unit :=
  if -0x8000000000000000 ≤ value ∧ value < 0x8000000000000000 then .ok () else .error .beyondColumn

namespace Value

def documentKey? : Value → Option String
  | .text value => some value
  | .bool value => some (if value then "true" else "false")
  | .null => some "null"
  | .int value => if isWritableWhole value then some (intText value) else none
  | .float .nan => some "NaN"
  | .float (.infinite negative) => some (if negative then "-Infinity" else "Infinity")
  | .float value => some value.text
  | _ => none

mutual

/-- A value as it is read back from a document: tuples become lists, and all keys texts. Sets,
decimals, dates, bytes, objects and whole numbers that are too long cannot be written. -/
def document? : Value → Option Value
  | .null => some .null
  | .bool value => some (.bool value)
  | .int value => if isWritableWhole value then some (.int value) else none
  | .float value => some (.float value)
  | .text value => some (.text value)
  | .list items => (documents? items).map .list
  | .tuple items => (documents? items).map .list
  | .map entries => (documentEntries? entries).map fun pairs => .map (Entries.ofList pairs)
  | _ => none

def documents? : List Value → Option (List Value)
  | [] => some []
  | item :: rest => do
      let first ← document? item
      let others ← documents? rest
      some (first :: others)

def documentEntries? : List (Value × Value) → Option (List (Value × Value))
  | [] => some []
  | (key, value) :: rest => do
      let name ← documentKey? key
      let content ← document? value
      let others ← documentEntries? rest
      some ((.text name, content) :: others)

end

end Value

namespace Column

def document (value : Value) : Except Fault Value :=
  match value.document? with
  | some content => .ok content
  | none => .error .notStorable

/-- A document given to a row that has one. A value that equals the stored document is not written. -/
def rewritten (stored changed : Value) : Except Fault Value :=
  if stored.equals changed then .ok stored else document changed

def keptNumber : Binary64 → Option Binary64
  | .nan => none
  | .finite negative units inRange => some (.finite (negative && units != 0) units inRange)
  | number => some number

def number : Value → Except Fault (Option Binary64)
  | .null => .ok none
  | value =>
      match FieldKind.readNumber value with
      | .ok number => .ok (keptNumber number)
      | .error _ => .error .notStorable

def truth : Value → Except Fault (Option Bool)
  | .null => .ok none
  | value =>
      if value.equals (.int 1) then .ok (some true)
      else if value.equals (.int 0) then .ok (some false)
      else .error .notStorable

/-- Numbers in a column of text are kept as text. Bytes are refused, which the database keeps as given. -/
def text : Value → Except Fault (Option String)
  | .null => .ok none
  | .text value => .ok (some value)
  | .bool value => .ok (some (if value then "1" else "0"))
  | .int value => do
      checkWord value
      return some (intText value)
  | .float .nan => .ok none
  | .float value => .ok (some value.columnText)
  | .date value => .ok (some value.text)
  | .instant value => .ok (some (value.textWith " "))
  | _ => .error .notBindable

/-- A number with a fraction and a text that is no whole number are refused, which the database keeps as
given. -/
def whole : Value → Except Fault (Option Int)
  | .null => .ok none
  | .bool value => .ok (some (if value then 1 else 0))
  | .int value => do
      checkWord value
      return some value
  | .float .nan => .ok none
  | .float value =>
      match value.toInt? with
      | some whole => .ok (some whole)
      | none => .error .notBindable
  | .text value =>
      match FieldKind.readWhole (.text value) with
      | .ok whole => .ok (some whole)
      | .error _ => .error .notBindable
  | _ => .error .notBindable

/-- The column for the id of a row keeps nothing but whole numbers of 64 bits. A row with another
number or with a text there breaks a rule of its table. -/
def rowId (value : Value) : Except Fault (Option Int) :=
  match value with
  | .float _ | .text _ | .date _ | .instant _ =>
      match whole value with
      | .ok none => .ok none
      | .ok (some id) => if (checkWord id).isOk then .ok (some id) else .error .rowRejected
      | .error _ => .error .rowRejected
  | _ => whole value

/-- Moments have to be moments already: texts are not read, and dates are refused, which the database
keeps as the midnights they start with. -/
def moment : Value → Except Fault Unit
  | .null | .instant _ => .ok ()
  | _ => .error .notStorable

def filled {α : Type} : Option α → Except Fault α
  | some value => .ok value
  | none => .error .rowRejected

def unstoredNames : List String := ["metadata", "registry"]

def checkNames (names : List String) (columns : Entries) : Except Fault Unit :=
  if columns.all fun entry => (entry.1.text?.map (names ++ unstoredNames).contains).getD false then
    .ok ()
  else .error .kindMismatch

end Column

end ConversionTracking
