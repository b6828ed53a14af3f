import ConversionTracking.Fault
import ConversionTracking.Trigger.Basic

/-!
Snapshots of triggers that are kept with conversions.
-/

namespace ConversionTracking

def parts? : Value → Option (List Value)
  | .list items | .tuple items | .set items => some items
  | .text text => some (text.toList.map fun char => .text (String.singleton char))
  | .map entries => some (entries.map Prod.fst)
  | .bytes bytes => some (bytes.map fun byte => .int byte.toNat)
  | _ => none

def entriesOfPairs (done : Entries) : Nat → List Value → Except Fault Entries
  | _, [] => .ok done
  | position, item :: rest =>
      match parts? item with
      | some [key, value] =>
          if key.isKey then entriesOfPairs (done.insert key value) (position + 1) rest
          else .error .kindMismatch
      | some parts => .error (.notPair position parts.length)
      | none => .error .kindMismatch

def propertyEntries (properties : Value) : Except Fault Entries :=
  if !properties.isGiven then .ok []
  else
    match properties with
    | .map entries => .ok entries
    | other =>
        match parts? other with
        | some items => entriesOfPairs [] 0 items
        | none => .error .kindMismatch

private def snapshot (kind : TriggerKind) (fields : List (String × Value)) : Entries :=
  ((.text "trigger_type", .text kind.name) : Value × Value)
    :: fields.map fun field => (.text field.1, field.2)

namespace Trigger

def metadata : Trigger → Except Fault Entries
  | .event source => do
      let properties ← propertyEntries source.properties
      return snapshot .event
        [("event_name", source.name), ("event_category", source.category),
          ("event_properties", .map properties), ("event_value", source.value)]
  | .pageView source =>
      .ok (snapshot .pageView [("path", source.path), ("title", source.title)])
  | .session source =>
      .ok (snapshot .session
        [("duration", source.duration), ("page_count", source.pageCount),
          ("entry_page", source.entryPage), ("exit_page", source.exitPage)])
  | .other _ => .error .missingAttribute

end Trigger

end ConversionTracking
