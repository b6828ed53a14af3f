import ConversionTracking.Definition.Goal
import ConversionTracking.Store.Goals
import ConversionTracking.Yaml.Document

/-!
Files with the definitions of goals, and bringing the goals in the database up to date with them. An
entry that is no valid definition is reported and left out.
-/

namespace ConversionTracking

structure RefusedEntry where
  label : String
  fault : Option DefinitionFault

namespace RefusedEntry

def message (refused : RefusedEntry) : String :=
  "goal " ++ refused.label ++ ": "
    ++ ((refused.fault.map DefinitionFault.message).getD "definition must be a mapping")

end RefusedEntry

structure LoadedGoals where
  definitions : List GoalDefinition
  refused : List RefusedEntry

namespace LoadedGoals

def empty : LoadedGoals := ⟨[], []⟩

def isValid (loaded : LoadedGoals) : Bool := loaded.refused.isEmpty

end LoadedGoals

structure SyncCounts where
  created : Nat
  updated : Nat
deriving DecidableEq, Repr

namespace GoalsFile

/-- The entries of a file's content. A map of goals gives each the name of its key unless it has one
of its own. -/
def entriesOf (path : String) (content : Value) : Except Fault (List Value) :=
  match content with
  | .map fields =>
      match Entries.field fields "goals" with
      | .null => .ok []
      | .list entries => .ok entries
      | .map goals =>
          .ok <| goals.map fun (name, body) =>
            match body with
            | .map fields => .map (Entries.merge [(.text "name", name)] fields)
            | other => other
      | _ => .error (.configuration (.goalsNotCollection path))
  | _ => .ok []

def label (position : Nat) (entry : Value) : String :=
  let numbered := "#" ++ decimalText position
  match entry with
  | .map fields => ((Entries.field? fields "name").map Value.plainText).getD numbered
  | _ => numbered

def readEntry (position : Nat) (entry : Value) : Outcome (Except RefusedEntry GoalDefinition) :=
  match entry with
  | .map fields =>
      (Except.ok <$> GoalDefinition.validate fields).recover fun fault =>
        match fault with
        | .definition fault => pure (.error ⟨label position entry, some fault⟩)
        | fault => .fail fault
  | _ => pure (.error ⟨label position entry, none⟩)

def readEntries : Nat → List Value → Outcome LoadedGoals
  | _, [] => pure .empty
  | position, entry :: rest => do
      let first ← readEntry position entry
      let others ← readEntries (position + 1) rest
      match first with
      | .ok definition => return { others with definitions := definition :: others.definitions }
      | .error refused => return { others with refused := refused :: others.refused }

def reportRefused : List RefusedEntry → Outcome Unit
  | [] => pure ()
  | _ :: rest => do
      Outcome.note .entryInvalid
      reportRefused rest

def parse (path : String) (text : String) : Except Fault Value :=
  match Yaml.valueOfText text with
  | .ok value => .ok value
  | .error .malformed => .error (.configuration (.goalsFileUnreadable path))
  | .error (.inconvertible cause) => .error cause

def load (path : String) (text : Option String) : Outcome LoadedGoals :=
  match text with
  | none => .fail (.configuration (.goalsFileMissing path))
  | some text => do
      let content ← Outcome.ofExcept (parse path text)
      let entries ← Outcome.ofExcept (entriesOf path content)
      let loaded ← readEntries 0 entries
      reportRefused loaded.refused
      return loaded

def givenFields (definition : GoalDefinition) : Entries :=
  definition.toEntries.filter fun entry => !entry.2.isNull

def unscopedFields (definition : GoalDefinition) : Entries :=
  definition.toEntries.filter fun entry =>
    !(entry.1.equals (.text "site_id") || entry.1.equals (.text "tenant_id"))

def syncOne (scope : Scope) (counts : SyncCounts) (definition : GoalDefinition) :
    Work SyncCounts := do
  match ← Work.read (·.findGoalByName scope definition.name) with
  | none => do
      let _ ← Goals.create scope (givenFields definition)
      return { counts with created := counts.created + 1 }
  | some goal => do
      let _ ← Goals.update scope (.goal (some goal)) (unscopedFields definition)
      return { counts with updated := counts.updated + 1 }

def sync (scope : Scope) : SyncCounts → List GoalDefinition → Work SyncCounts
  | counts, [] => return counts
  | counts, definition :: rest => do
      let counts ← syncOne scope counts definition
      sync scope counts rest

def loadAndSync (scope : Scope) (path : String) (text : Option String) : Work SyncCounts := do
  let loaded ← Work.ofOutcome (load path text)
  sync scope ⟨0, 0⟩ loaded.definitions

/-- What happens when the program starts with a file of goals. A faulty configuration or definition
is reported and does not stop the start. -/
def start (path : String) (text : Option String) : Work Unit :=
  let attempt : Work Unit := do
    let _ ← loadAndSync .everything path text
    return ()
  attempt.recover fun fault =>
    match fault with
    | .configuration _ | .definition _ | .goalNotFound _ => Work.note .goalsFileNotLoaded
    | fault => Work.ofExcept (.error fault)

end GoalsFile

end ConversionTracking
