import ConversionTracking.Calendar.IsoText
import ConversionTracking.Store.Goals

/-!
Rows as they are written by others, column by column and without validation. Of several rows of a
table either all are stored or none.
-/

namespace ConversionTracking

def columnOr (fallback : Value) (columns : Entries) (name : String) : Value :=
  let value := columns.field name
  if value.isNull then fallback else value

def recordedAt (now : Stamp) (columns : Entries) : Except Fault StoredMoment :=
  match columns.field "created_at" with
  | .null => .ok (.stamped now)
  | .text text => (Instant.ofIso text).mapError Fault.calendar |>.map .given
  | _ => .error .kindMismatch

namespace Goal

def columnNames : List String :=
  ["id", "site_id", "tenant_id", "name", "description", "type", "conditions", "value_type",
    "fixed_value", "dynamic_value_path", "allow_multiple", "is_active", "funnel_steps",
    "created_at", "updated_at"]

def ofColumns (now : Stamp) (nextId : Int) (columns : Entries) : Except Fault Goal := do
  Column.checkNames columnNames columns
  let _ ← recordedAt now columns
  Column.moment (columns.field "updated_at")
  let conditions ← Column.document ((Entries.field? columns "conditions").getD (.map []))
  let funnelSteps ← Column.document (columns.field "funnel_steps")
  let fixedValue ← Column.number (columns.field "fixed_value")
  let allowMultiple ← Column.truth (columnOr (.bool false) columns "allow_multiple")
  let isActive ← Column.truth (columnOr (.bool true) columns "is_active")
  let siteId ← Column.whole (columns.field "site_id")
  let tenantId ← Column.text (columns.field "tenant_id")
  let name ← Column.text (columns.field "name")
  let description ← Column.text (columns.field "description")
  let goalType ← Column.text (columns.field "type")
  let valueType ← Column.text (columnOr (.text "none") columns "value_type")
  let dynamicPath ← Column.text (columns.field "dynamic_value_path")
  let id ← Column.rowId (columns.field "id")
  return {
    id := id.getD nextId
    siteId, tenantId
    name := ← Column.filled name
    description
    goalType := ← Column.filled goalType
    conditions
    valueType := ← Column.filled valueType
    fixedValue, dynamicPath
    allowMultiple := ← Column.filled allowMultiple
    isActive := ← Column.filled isActive
    funnelSteps }

end Goal

namespace EventFact

def columnNames : List String :=
  ["id", "site_id", "tenant_id", "session_id", "visitor_id", "name", "category", "properties",
    "value", "path", "created_at"]

def ofColumns (now : Stamp) (nextId : Int) (columns : Entries) : Except Fault EventFact := do
  Column.checkNames columnNames columns
  let createdAt ← recordedAt now columns
  let properties ← Column.document (columns.field "properties")
  let _ ← Column.number (columns.field "value")
  let siteId ← Column.whole (columns.field "site_id")
  let tenantId ← Column.text (columns.field "tenant_id")
  let _ ← Column.text (columns.field "session_id")
  let visitorId ← Column.text (columns.field "visitor_id")
  let name ← Column.text (columns.field "name")
  let category ← Column.text (columns.field "category")
  let _ ← Column.text (columns.field "path")
  let id ← Column.rowId (columns.field "id")
  return {
    id := id.getD nextId
    siteId, tenantId, visitorId
    name := ← Column.filled name
    category, properties, createdAt }

end EventFact

namespace PageViewFact

def columnNames : List String :=
  ["id", "site_id", "tenant_id", "session_id", "visitor_id", "path", "title", "created_at"]

def ofColumns (now : Stamp) (nextId : Int) (columns : Entries) : Except Fault PageViewFact := do
  Column.checkNames columnNames columns
  let createdAt ← recordedAt now columns
  let siteId ← Column.whole (columns.field "site_id")
  let tenantId ← Column.text (columns.field "tenant_id")
  let _ ← Column.text (columns.field "session_id")
  let visitorId ← Column.text (columns.field "visitor_id")
  let path ← Column.text (columns.field "path")
  let _ ← Column.text (columns.field "title")
  let id ← Column.rowId (columns.field "id")
  return {
    id := id.getD nextId
    siteId, tenantId, visitorId
    path := ← Column.filled path
    createdAt }

end PageViewFact

namespace Database

def addRows {Row : Type} (database : Database) (id : Row → Int)
    (ofColumns : Int → Entries → Except Fault Row) (table : List Row) :
    List Entries → Except Fault (List Row)
  | [] => .ok table
  | columns :: rest => do
      let row ← ofColumns (database.nextId (table.map id)) columns
      if table.any (id · == id row) then .error .rowRejected
      else addRows database id ofColumns (table ++ [row]) rest

section

variable (database : Database) (now : Stamp) (rows : List Entries)

def insertGoalRows : Except Fault Database :=
  (database.addRows Goal.id (Goal.ofColumns now) database.goals rows).map
    fun goals => { database with goals }

def insertEvents : Except Fault Database :=
  (database.addRows EventFact.id (EventFact.ofColumns now) database.events rows).map
    fun events => { database with events }

def insertPageViews : Except Fault Database :=
  (database.addRows PageViewFact.id (PageViewFact.ofColumns now) database.pageViews rows).map
    fun pageViews => { database with pageViews }

end

end Database

end ConversionTracking
