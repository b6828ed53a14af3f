import ConversionTracking.Listing.Arguments
import ConversionTracking.Listing.Table
import ConversionTracking.Store.Conversions
import ConversionTracking.Store.Goals

/-!
The list of goals with the numbers of their conversions.
-/

namespace ConversionTracking

structure CommandResult where
  exitCode : Nat
  output : String
  usageFault : Option UsageFault

namespace Listing

def headers : List String := ["ID", "Name", "Type", "Active", "Value Type", "Conversions"]

def row (database : Database) (goal : Goal) : List String :=
  [intText goal.id, goal.name, goal.goalType, if goal.isActive then "Yes" else "No",
    goal.valueType, decimalText (database.conversionCount goal.id)]

def goals (activeOnly : Bool) (siteId : Option Int) (database : Database) :
    Except Fault (List Goal) :=
  let scope : Scope := ⟨siteId, none⟩
  if activeOnly then database.activeGoals scope none else database.allGoals scope

def table (activeOnly : Bool) (siteId : Option Int) (database : Database) :
    Except Fault String := do
  let goals ← goals activeOnly siteId database
  if goals.isEmpty then return "No goals found.\n"
  else return (← Table.render headers (goals.map (row database))) ++ "\n"

def help : String :=
  "usage: goals [-h] [--active] [--site SITE]\n\n" ++
  "List analytics goals with conversion counts\n\n" ++
  "options:\n" ++
  "  -h, --help   show this help message and exit\n" ++
  "  --active     Only show active goals\n" ++
  "  --site SITE  Restrict to one site id\n"

def run (arguments : List String) (database : Database) : Except Fault CommandResult :=
  match ListCommand.ofArguments arguments with
  | .error fault => .ok ⟨2, "", some fault⟩
  | .ok .help => .ok ⟨0, help, none⟩
  | .ok (.list activeOnly siteId) => do
      return ⟨0, ← table activeOnly siteId database, none⟩

end Listing

end ConversionTracking
