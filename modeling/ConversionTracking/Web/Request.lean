import ConversionTracking.Definition.Field
import ConversionTracking.Store.Database
import ConversionTracking.Text.Parts

/-!
Requests for reports: the routes, and the parameters in paths and queries.
-/

namespace ConversionTracking

structure Request where
  method : String
  path : String
  query : List (String × String)
deriving Repr

inductive Route where
  | goals
  | goal (id : String)
  | funnel (id : String)
  | comparison (id : String)
  | bottlenecks (id : String)
  | health
deriving DecidableEq, Repr

namespace Route

def ofParts? : List String → Option Route
  | ["", "goals"] => some .goals
  | ["", "goals", id] => if id.isEmpty then none else some (.goal id)
  | ["", "goals", id, "funnel"] => if id.isEmpty then none else some (.funnel id)
  | ["", "goals", id, "funnel", "compare"] => if id.isEmpty then none else some (.comparison id)
  | ["", "goals", id, "funnel", "bottlenecks"] =>
      if id.isEmpty then none else some (.bottlenecks id)
  | ["", "health"] => some .health
  | _ => none

def withoutLastSlashes (chars : List Char) : List Char :=
  (chars.reverse.dropWhile (· == '/')).reverse

def ofPath? (path : String) : Option Route :=
  ofParts? ((splitAtChar '/' (withoutLastSlashes path.toList)).map String.ofList)

end Route

namespace Request

def parameter? (request : Request) (name : String) : Option String :=
  request.query.reverse.lookup name

def queryPlace (name : String) {α : Type} (checked : Checked α) : Checked α :=
  (checked.within (.field name)).within (.field "query")

def optionalWhole (request : Request) (name : String) : Checked (Option Int) :=
  match request.parameter? name with
  | none => pure none
  | some text => queryPlace name (some <$> FieldKind.whole (.text text))

def scope (request : Request) : Checked Scope :=
  (fun siteId => ⟨siteId, request.parameter? "tenant_id"⟩) <$> request.optionalWhole "site_id"

def goalId (id : String) : Checked Int :=
  ((FieldKind.whole (.text id)).within (.field "goal_id")).within (.field "path")

def active (request : Request) : Checked Bool :=
  match request.parameter? "active" with
  | none => pure false
  | some text => queryPlace "active" (FieldKind.truth (.text text))

def defaultLimit : Int := 3

def largestLimit : Nat := 50

def checkLimit (limit : Int) : Checked Int :=
  if limit < 1 then .refuse (.int limit) (.belowMinimum 1)
  else if (largestLimit : Int) < limit then .refuse (.int limit) (.aboveMaximum largestLimit)
  else pure limit

def limit (request : Request) : Checked Int :=
  match request.parameter? "limit" with
  | none => pure defaultLimit
  | some text =>
      queryPlace "limit" <|
        match FieldKind.whole (.text text) with
        | .valid limit => checkLimit limit
        | .invalid issues => .invalid issues

end Request

end ConversionTracking
