import ConversionTracking.Definition.Goal
import ConversionTracking.Store.Database

/-!
Goals in the database: looking them up within a scope, and creating, changing and deleting them.
Definitions are validated before they are stored.
-/

namespace ConversionTracking

namespace Goal

def ofParts (id : Int) (definition : GoalDefinition) (conditions funnelSteps : Value) :
    Except Fault Goal := do
  match definition.siteId with
  | some site => checkWord site
  | none => pure ()
  return {
    id
    siteId := definition.siteId
    tenantId := definition.tenantId
    name := definition.name
    description := definition.description
    goalType := definition.goalType
    conditions
    valueType := definition.valueType
    fixedValue := definition.fixedValue.bind Column.keptNumber
    dynamicPath := definition.dynamicPath
    allowMultiple := definition.allowMultiple
    isActive := definition.isActive
    funnelSteps }

def ofDefinition (id : Int) (definition : GoalDefinition) : Except Fault Goal := do
  let conditions ← Column.document definition.conditions.toValue
  let funnelSteps ← Column.document definition.stepsValue
  ofParts id definition conditions funnelSteps

def revised (stored : Goal) (definition : GoalDefinition) : Except Fault Goal := do
  let conditions ← Column.rewritten stored.conditions definition.conditions.toValue
  let funnelSteps ← Column.rewritten stored.funnelSteps definition.stepsValue
  ofParts stored.id definition conditions funnelSteps

def toEntries (goal : Goal) : Entries :=
  let orNull {α : Type} (wrap : α → Value) (value : Option α) : Value := (value.map wrap).getD .null
  [ (.text "name", .text goal.name),
    (.text "type", .text goal.goalType),
    (.text "description", orNull .text goal.description),
    (.text "conditions", goal.conditions),
    (.text "value_type", .text goal.valueType),
    (.text "fixed_value", orNull .float goal.fixedValue),
    (.text "dynamic_value_path", orNull .text goal.dynamicPath),
    (.text "allow_multiple", .bool goal.allowMultiple),
    (.text "is_active", .bool goal.isActive),
    (.text "funnel_steps", goal.funnelSteps),
    (.text "site_id", orNull .int goal.siteId),
    (.text "tenant_id", orNull .text goal.tenantId) ]

def isVisible (goal : Goal) (scope : Scope) : Bool := scope.sees goal.siteId goal.tenantId

end Goal

namespace Database

def visibleGoals (database : Database) (scope : Scope) : List Goal :=
  database.goals.filter (·.isVisible scope)

def goalsById (goals : List Goal) : List Goal := goals.mergeSort fun left right => left.id ≤ right.id

def goalsByName (goals : List Goal) : List Goal :=
  goals.mergeSort fun left right =>
    left.name < right.name || (left.name == right.name && left.id ≤ right.id)

def findGoal (database : Database) (scope : Scope) (id : Int) : Except Fault (Option Goal) := do
  scope.check
  checkWord id
  return (database.visibleGoals scope).find? (·.id == id)

def findGoalByName (database : Database) (scope : Scope) (name : String) :
    Except Fault (Option Goal) := do
  scope.check
  return (goalsById (database.visibleGoals scope)).find? (·.name == name)

def allGoals (database : Database) (scope : Scope) : Except Fault (List Goal) := do
  scope.check
  return goalsByName (database.visibleGoals scope)

def activeGoals (database : Database) (scope : Scope) (goalType : Option String) :
    Except Fault (List Goal) := do
  scope.check
  return goalsByName <| (database.visibleGoals scope).filter fun goal =>
    goal.isActive && (goalType.isNone || goalType == some goal.goalType)

def activeGoalsOfType (database : Database) (scope : Scope) (goalType : String) :
    Except Fault (List Goal) := do
  scope.check
  return goalsById <| (database.visibleGoals scope).filter fun goal =>
    goal.isActive && goal.goalType == goalType

def replaceGoal (database : Database) (changed : Goal) : Database :=
  { database with
    goals := database.goals.map fun goal => if goal.id = changed.id then changed else goal }

def removeGoal (database : Database) (id : Int) : Database :=
  { database with goals := database.goals.filter (·.id ≠ id) }

def insertDefinition (database : Database) (definition : GoalDefinition) :
    Except Fault (Goal × Database) := do
  let goal ← Goal.ofDefinition (database.nextId (database.goals.map (·.id))) definition
  return (goal, { database with goals := database.goals ++ [goal] })

end Database

namespace Goals

def scopedAttributes (scope : Scope) (attributes : Entries) : Entries :=
  let withSite :=
    match scope.siteId with
    | some site => attributes.insertMissing "site_id" (.int site)
    | none => attributes
  match scope.tenantId with
  | some tenant => withSite.insertMissing "tenant_id" (.text tenant)
  | none => withSite

def create (scope : Scope) (attributes : Entries) : Work Goal := do
  let definition ← Work.ofOutcome (GoalDefinition.validate (scopedAttributes scope attributes))
  Work.change (·.insertDefinition definition)

def updateGoal (goal : Goal) (changes : Entries) : Work Goal := do
  let definition ← Work.ofOutcome (GoalDefinition.validate (goal.toEntries.merge changes))
  Work.change fun database => do
    let changed ← goal.revised definition
    return (changed, database.replaceGoal changed)

/-- A goal to be changed: the id of one within the scope, or one that is at hand. -/
inductive Target where
  | id (id : Int)
  | goal (goal : Option Goal)

def resolve (scope : Scope) : Target → Work (Option Goal)
  | .id id => Work.read (·.findGoal scope id)
  | .goal goal => pure goal

def update (scope : Scope) (target : Target) (changes : Entries) : Work (Option Goal) := do
  match ← resolve scope target with
  | none => return none
  | some goal => return some (← updateGoal goal changes)

def delete (scope : Scope) (target : Target) : Work Bool := do
  match ← resolve scope target with
  | none => return false
  | some goal =>
      Work.change fun database => .ok (true, database.removeGoal goal.id)

def setActive (scope : Scope) (target : Target) (isActive : Bool) : Work Bool := do
  match ← resolve scope target with
  | none => return false
  | some goal =>
      Work.change fun database => .ok (true, database.replaceGoal { goal with isActive })

def get (scope : Scope) (id : Int) : Work Goal := do
  match ← Work.read (·.findGoal scope id) with
  | some goal => return goal
  | none => Work.ofExcept (.error (.goalNotFound id))

/-- A call with the entries as keywords, which are texts and name no parameter that is bound already. -/
def byKeyword {α : Type} (bound : List String) (call : Entries → Work α) (entries : Entries) :
    Work α :=
  if entries.all fun entry => entry.1.text?.any (!bound.contains ·) then call entries
  else Work.ofExcept (.error .kindMismatch)

def createByKeyword (scope : Scope) : Entries → Work Goal := byKeyword ["self"] (create scope)

def updateByKeyword (scope : Scope) (target : Target) : Entries → Work (Option Goal) :=
  byKeyword ["self", "goal"] (update scope target)

end Goals

end ConversionTracking
