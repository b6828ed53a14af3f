import ConversionTracking.Number.Decimal
import ConversionTracking.Number.Fault
import ConversionTracking.Calendar.Instant

/-!
The values that events, sessions, goals and goal files carry: scalars, containers and objects that
are known by their identity alone.
-/

namespace ConversionTracking

inductive Value where
  | null
  | bool (value : Bool)
  | int (value : Int)
  | float (value : Binary64)
  | decimal (value : Decimal)
  | text (value : String)
  | bytes (value : List UInt8)
  | date (value : Date)
  | instant (value : Instant)
  | list (items : List Value)
  | tuple (items : List Value)
  | set (items : List Value)
  | map (entries : List (Value × Value))
  | reference (id : Value)
  | object (identity : Nat)
deriving Inhabited

namespace Value

def isNull : Value → Bool
  | .null => true
  | _ => false

def kindName : Value → String
  | .null => "NoneType"
  | .bool _ => "bool"
  | .int _ => "int"
  | .float _ => "float"
  | .decimal _ => "Decimal"
  | .text _ => "str"
  | .bytes _ => "bytes"
  | .date _ => "date"
  | .instant _ => "datetime"
  | .list _ => "list"
  | .tuple _ => "tuple"
  | .set _ => "set"
  | .map _ => "dict"
  | .reference _ => "SimpleNamespace"
  | .object _ => "object"

/-- Everything counts as given but null, false, zero, the empty text and empty containers. -/
def isGiven : Value → Bool
  | .null => false
  | .bool value => value
  | .int value => value != 0
  | .float value => !value.isZero
  | .decimal value => !value.isZero
  | .text value => !value.isEmpty
  | .bytes value => !value.isEmpty
  | .list items | .tuple items | .set items => !items.isEmpty
  | .map entries => !entries.isEmpty
  | .date _ | .instant _ | .reference _ | .object _ => true

def text? : Value → Option String
  | .text value => some value
  | _ => none

def entries? : Value → Option (List (Value × Value))
  | .map entries => some entries
  | _ => none

mutual

def isWritable : Value → Bool
  | .int value => isWritableWhole value
  | .list items | .tuple items | .set items => areWritable items
  | .map entries => entriesAreWritable entries
  | .reference id => id.isWritable
  | _ => true

def areWritable : List Value → Bool
  | [] => true
  | item :: rest => item.isWritable && areWritable rest

def entriesAreWritable : List (Value × Value) → Bool
  | [] => true
  | (key, value) :: rest => key.isWritable && value.isWritable && entriesAreWritable rest

end

def isKey : Value → Bool
  | .list _ | .set _ | .map _ | .reference _ => false
  | .decimal value => !value.isSignaling
  | .tuple items => keysOnly items
  | _ => true
where
  keysOnly : List Value → Bool
  | [] => true
  | item :: rest => item.isKey && keysOnly rest

end Value

end ConversionTracking
