import ConversionTracking.GoalsFile
import ConversionTracking.Listing.Run

/-!
The programs that share a database: the application, which loads goals from a file as it starts, and
the command that lists goals, which loads none. The database is in memory, so that the command is run
right after the application has started.
-/

open ConversionTracking

def goalsFilePath : IO (Option String) := do
  return (← IO.getEnv "GOAL_ENGINE_GOALS_FILE").filter (!·.isEmpty)

def readGoalsFile (path : String) : IO (Option String) := do
  try
    return some (← IO.FS.readFile path)
  catch _ => return none

def startApplication (database : Database) : IO (Outcome Unit × Database) := do
  match ← goalsFilePath with
  | none => return (pure (), database)
  | some path => return GoalsFile.start path (← readGoalsFile path) database

def listGoals (arguments : List String) (database : Database) : IO UInt32 := do
  match Listing.run arguments database with
  | .error fault =>
      IO.eprintln fault.message
      return 1
  | .ok result =>
      IO.print result.output
      match result.usageFault with
      | some fault => IO.eprintln ("error: " ++ fault.message)
      | none => pure ()
      return result.exitCode.toUInt32

def main (arguments : List String) : IO UInt32 := do
  let (started, database) ← startApplication .empty
  match started.result with
  | .error fault =>
      IO.eprintln fault.message
      return 1
  | .ok () => listGoals arguments database
