import ConversionTracking.Store.Database
import ConversionTracking.Text.Parts
import ConversionTracking.Trigger.Metadata

/-!
Conversions in the database. No two conversions of a goal have the same key; a row that would break
this is dropped without a word, and a row that breaks another rule is dropped with a notice. The two
are told apart by what the database says of the row.
-/

namespace ConversionTracking

inductive ConversionRule where
  | idWhole
  | goalGiven
  | idUnused
  | keyUnused
deriving DecidableEq, Repr

namespace ConversionRule

def message : ConversionRule → String
  | .idWhole => "datatype mismatch"
  | .goalGiven => "NOT NULL constraint failed: analytics_conversions.goal_id"
  | .idUnused => "UNIQUE constraint failed: analytics_conversions.id"
  | .keyUnused =>
      "UNIQUE constraint failed: analytics_conversions.goal_id, analytics_conversions.dedupe_key"

end ConversionRule

structure ConversionFields where
  id : Value := .null
  goalId : Value := .null
  siteId : Value := .null
  tenantId : Value := .null
  sessionId : Value := .null
  visitorId : Value := .null
  eventId : Value := .null
  pageViewId : Value := .null
  value : Value := .null
  metadata : Value := .null
  dedupeKey : Value := .null
  createdAt : Value := .null

namespace ConversionFields

def names : List String :=
  ["id", "goal_id", "site_id", "tenant_id", "session_id", "visitor_id", "event_id", "page_view_id",
    "value", "trigger_metadata", "dedupe_key", "created_at"]

def ofEntries (entries : Entries) : Except Fault ConversionFields := do
  Column.checkNames names entries
  return {
    id := entries.field "id"
    goalId := entries.field "goal_id"
    siteId := entries.field "site_id"
    tenantId := entries.field "tenant_id"
    sessionId := entries.field "session_id"
    visitorId := entries.field "visitor_id"
    eventId := entries.field "event_id"
    pageViewId := entries.field "page_view_id"
    value := entries.field "value"
    metadata := entries.field "trigger_metadata"
    dedupeKey := entries.field "dedupe_key"
    createdAt := entries.field "created_at" }

/-- The row with the given id for want of another. Documents and numbers are written first. -/
def toRow (fields : ConversionFields) (nextId : Int) : Except Fault Conversion := do
  let value ← Column.number fields.value
  let metadata ← Column.document fields.metadata
  Column.moment fields.createdAt
  let goalId ← Column.whole fields.goalId
  let siteId ← Column.whole fields.siteId
  let tenantId ← Column.text fields.tenantId
  let sessionId ← Column.text fields.sessionId
  let visitorId ← Column.text fields.visitorId
  let eventId ← Column.text fields.eventId
  let pageViewId ← Column.text fields.pageViewId
  let dedupeKey ← Column.text fields.dedupeKey
  let id ← Column.rowId fields.id
  let goalId ← Column.filled goalId
  return {
    id := id.getD nextId
    goalId, siteId, tenantId, sessionId, visitorId, eventId, pageViewId, value, metadata, dedupeKey }

/-- The rule that is broken when no row can be made of the columns. The id is looked at first. -/
def brokenRule (fields : ConversionFields) : ConversionRule :=
  match Column.rowId fields.id with
  | .ok _ => .goalGiven
  | .error _ => .idWhole

end ConversionFields

namespace Conversion

def conflicts (left right : Conversion) : Bool :=
  left.goalId == right.goalId && left.dedupeKey.isSome && left.dedupeKey == right.dedupeKey

end Conversion

inductive Insertion where
  | stored (conversion : Conversion)
  | rejected (rule : ConversionRule)

namespace Database

def conversionExists (database : Database) (goalId : Int) (key : Option String) :
    Except Fault Bool :=
  match key with
  | none => .ok false
  | some key => do
      checkWord goalId
      return database.conversions.any fun conversion =>
        conversion.goalId == goalId && conversion.dedupeKey == some key

def insertConversion (database : Database) (fields : ConversionFields) :
    Except Fault (Insertion × Database) :=
  match fields.toRow (database.nextId (database.conversions.map (·.id))) with
  | .error .rowRejected => .ok (.rejected fields.brokenRule, database)
  | .error fault => .error fault
  | .ok row =>
      if database.conversions.any (·.id == row.id) then .ok (.rejected .idUnused, database)
      else if database.conversions.any row.conflicts then .ok (.rejected .keyUnused, database)
      else .ok (.stored row, { database with conversions := database.conversions ++ [row] })

def conversionsOf (database : Database) (goalId : Int) : Except Fault (List Conversion) := do
  checkWord goalId
  return (database.conversions.filter (·.goalId == goalId)).mergeSort
    fun left right => left.id ≤ right.id

def conversionCount (database : Database) (goalId : Int) : Nat :=
  database.conversions.countP (·.goalId == goalId)

def conversionCounts (database : Database) : List (Int × Nat) :=
  let goals := (database.conversions.map (·.goalId)).eraseDups
  (goals.mergeSort (· ≤ ·)).map fun goalId => (goalId, database.conversionCount goalId)

end Database

namespace Conversions

/-- The key of a row is in use, by what the database says. Some databases name the rule and some the
columns. -/
def isKeyConflict (message : String) : Bool :=
  occursIn "uq_conversions_goal_dedupe".toList message.toList
    || occursIn "analytics_conversions.dedupe_key".toList message.toList

def insert (fields : ConversionFields) : Work (Option Conversion) := do
  match ← Work.change (·.insertConversion fields) with
  | .stored conversion => return some conversion
  | .rejected rule =>
      if isKeyConflict rule.message then return none
      else do
        Work.note .rowRefused
        return none

def insertGiven (given : Entries) : Work (Option Conversion) := do
  insert (← Work.ofExcept (ConversionFields.ofEntries given))

end Conversions

end ConversionTracking
