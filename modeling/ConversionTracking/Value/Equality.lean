import ConversionTracking.Value.Basic

/-!
Equality of values: numbers of every kind by their exact value, truth values as one and zero, lists
and tuples in order, sets and maps without order, and objects by identity.
-/

namespace ConversionTracking

namespace Value

inductive Numeric where
  | whole (value : Int)
  | binary (value : Binary64)
  | decimal (value : Decimal)

def numeric? : Value → Option Numeric
  | .bool value => some (.whole (if value then 1 else 0))
  | .int value => some (.whole value)
  | .float value => some (.binary value)
  | .decimal value => some (.decimal value)
  | _ => none

def Numeric.equals : Numeric → Numeric → Bool
  | .whole left, .whole right => left == right
  | .whole left, .binary right => right.compareInt? left == some .eq
  | .whole left, .decimal right => right.equalsInt left
  | .binary left, .whole right => left.compareInt? right == some .eq
  | .binary left, .binary right => left.equals right
  | .binary left, .decimal right => right.equalsBinary64 left
  | .decimal left, .whole right => left.equalsInt right
  | .decimal left, .binary right => left.equalsBinary64 right
  | .decimal left, .decimal right => left.equals right

def equalScalars (left right : Value) : Bool :=
  match left.numeric?, right.numeric? with
  | some leftNumber, some rightNumber => leftNumber.equals rightNumber
  | none, none =>
      match left, right with
      | .null, .null => true
      | .text leftText, .text rightText => leftText == rightText
      | .bytes leftBytes, .bytes rightBytes => leftBytes == rightBytes
      | .date leftDate, .date rightDate => leftDate == rightDate
      | .instant leftInstant, .instant rightInstant => leftInstant.equals rightInstant
      | .object leftIdentity, .object rightIdentity => leftIdentity == rightIdentity
      | _, _ => false
  | _, _ => false

mutual

def equals (left right : Value) : Bool :=
  match left with
  | .list leftItems =>
      match right with
      | .list rightItems => equalItems leftItems rightItems
      | _ => false
  | .tuple leftItems =>
      match right with
      | .tuple rightItems => equalItems leftItems rightItems
      | _ => false
  | .set leftItems =>
      match right with
      | .set rightItems => leftItems.length == rightItems.length && includedItems leftItems rightItems
      | _ => false
  | .map leftEntries =>
      match right with
      | .map rightEntries =>
          leftEntries.length == rightEntries.length && includedEntries leftEntries rightEntries
      | _ => false
  | .reference leftId =>
      match right with
      | .reference rightId => equals leftId rightId
      | _ => false
  | scalar => equalScalars scalar right

def equalItems : List Value → List Value → Bool
  | [], [] => true
  | left :: leftRest, right :: rightRest => equals left right && equalItems leftRest rightRest
  | _, _ => false

def includedItems : List Value → List Value → Bool
  | [], _ => true
  | left :: rest, others => others.any (fun right => equals left right) && includedItems rest others

def includedEntries : List (Value × Value) → List (Value × Value) → Bool
  | [], _ => true
  | (key, value) :: rest, others =>
      others.any (fun other => equals key other.1 && equals value other.2)
        && includedEntries rest others

end

def Numeric.isSignaling : Numeric → Bool
  | .decimal value => value.isSignaling
  | _ => false

mutual

/-- Comparing the values comes on a signaling NaN beside another number. Lists of different lengths and
maps of different sizes are unequal before their parts are looked at; tuples are compared as far as the
shorter one goes, and nothing is compared after the first unequal parts. -/
def signals (left right : Value) : Bool :=
  match left with
  | .list leftItems =>
      match right with
      | .list rightItems =>
          leftItems.length == rightItems.length && itemsSignal leftItems rightItems
      | _ => false
  | .tuple leftItems =>
      match right with
      | .tuple rightItems => itemsSignal leftItems rightItems
      | _ => false
  | .map leftEntries =>
      match right with
      | .map rightEntries =>
          leftEntries.length == rightEntries.length && entriesSignal leftEntries rightEntries
      | _ => false
  | .reference leftId =>
      match right with
      | .reference rightId => signals leftId rightId
      | _ => false
  | scalar =>
      match scalar.numeric?, right.numeric? with
      | some leftNumber, some rightNumber => leftNumber.isSignaling || rightNumber.isSignaling
      | _, _ => false

def itemsSignal : List Value → List Value → Bool
  | left :: leftRest, right :: rightRest =>
      signals left right || (equals left right && itemsSignal leftRest rightRest)
  | _, _ => false

def entriesSignal : List (Value × Value) → List (Value × Value) → Bool
  | [], _ => false
  | (key, value) :: rest, others =>
      match others.find? fun other => equals key other.1 with
      | some other => signals value other.2 || (equals value other.2 && entriesSignal rest others)
      | none => false

end

def distinct (items : List Value) : List Value :=
  items.foldl (fun kept item => if kept.any (equals item) then kept else kept ++ [item]) []

end Value

abbrev Entries := List (Value × Value)

namespace Entries

def find? (entries : Entries) (key : Value) : Option Value :=
  (List.find? (fun entry => entry.1.equals key) entries).map Prod.snd

def lookup (entries : Entries) (key : Value) : Value := (find? entries key).getD .null

def field? (entries : Entries) (name : String) : Option Value := find? entries (.text name)

def field (entries : Entries) (name : String) : Value := lookup entries (.text name)

def contains (entries : Entries) (key : Value) : Bool :=
  List.any entries fun entry => entry.1.equals key

def insert (entries : Entries) (key value : Value) : Entries :=
  if contains entries key then
    List.map (fun entry => if entry.1.equals key then (entry.1, value) else entry) entries
  else entries ++ [(key, value)]

def insertField (entries : Entries) (name : String) (value : Value) : Entries :=
  insert entries (.text name) value

def insertMissing (entries : Entries) (name : String) (value : Value) : Entries :=
  if contains entries (.text name) then entries else entries ++ [(.text name, value)]

def merge (entries changes : Entries) : Entries :=
  changes.foldl (fun merged entry => insert merged entry.1 entry.2) entries

def ofList (pairs : List (Value × Value)) : Entries := merge [] pairs

end Entries

end ConversionTracking
