import ConversionTracking.Funnel.Body
import ConversionTracking.Funnel.Stored
import ConversionTracking.Web.Period
import ConversionTracking.Web.Request

/-!
Answers to requests for reports. What a request gets wrong is told in the answer; anything else that
fails is an internal error.
-/

namespace ConversionTracking

inductive ResponseBody where
  | value (value : Value)
  | text (text : String)
  | issues (issues : List Issue)

structure Response where
  status : Nat
  body : ResponseBody

namespace Response

def ok (value : Value) : Response := ⟨200, .value value⟩

def detail (status : Nat) (message : String) : Response :=
  ⟨status, .value (Value.record [("detail", .text message)])⟩

def notFound : Response := detail 404 "Not Found"

def methodNotAllowed : Response := detail 405 "Method Not Allowed"

def invalid (issues : List Issue) : Response := ⟨422, .issues issues⟩

def internalError : Response := ⟨500, .text "Internal Server Error"⟩

end Response

namespace Value

mutual

def finiteOrNull : Value → Value
  | .float (.finite negative units inRange) => .float (.finite negative units inRange)
  | .float _ => .null
  | .list items => .list (finiteItems items)
  | .map entries => .map (finiteEntries entries)
  | value => value

def finiteItems : List Value → List Value
  | [] => []
  | item :: rest => item.finiteOrNull :: finiteItems rest

def finiteEntries : List (Value × Value) → List (Value × Value)
  | [] => []
  | (key, value) :: rest => (key, value.finiteOrNull) :: finiteEntries rest

end

mutual

def isFinite : Value → Bool
  | .float (.finite ..) => true
  | .float _ => false
  | .list items => areFinite items
  | .map entries => haveFiniteValues entries
  | _ => true

def areFinite : List Value → Bool
  | [] => true
  | item :: rest => item.isFinite && areFinite rest

def haveFiniteValues : List (Value × Value) → Bool
  | [] => true
  | (_, value) :: rest => value.isFinite && haveFiniteValues rest

end

def isMap (value : Value) : Bool := value.entries?.isSome

end Value

namespace Goal

/-- The goal as it is sent. Conditions have to be a map, and funnel steps a list of maps. -/
def body? (goal : Goal) : Option Value :=
  let stepsFit :=
    match goal.funnelSteps with
    | .null => true
    | .list steps => steps.all Value.isMap
    | _ => false
  if goal.conditions.isMap && stepsFit then
    some (Value.map ((.text "id", .int goal.id) :: goal.toEntries)).finiteOrNull
  else none

end Goal

namespace Respond

def sendReport (body : Value) : Response := if body.isFinite then .ok body else .internalError

def refuseRange (name : String) (fault : CalendarFault) : Response :=
  if fault.isRefusal then .detail 400 ("Invalid " ++ name ++ ": " ++ fault.message)
  else .internalError

/-- What a failure leads to: goals that are not there, and faults of their definitions, are told. -/
def ofFault : Fault → Response
  | .goalNotFound id => .detail 404 (Fault.goalNotFound id).message
  | .configuration fault => .detail 422 fault.message
  | .definition fault => .detail 422 fault.message
  | _ => .internalError

def goals (scope : Scope) (active : Bool) (goalType : Option String) : Work Response := do
  let goals ←
    if active then Work.read (·.activeGoals scope goalType)
    else do
      let goals ← Work.read (·.allGoals scope)
      pure (goals.filter fun goal => goalType.isNone || goalType == some goal.goalType)
  match goals.mapM Goal.body? with
  | some bodies => return .ok (.list bodies)
  | none => return .internalError

def goal (scope : Scope) (id : Int) : Work Response := do
  match (← Goals.get scope id).body? with
  | some body => return .ok body
  | none => return .internalError

def funnel (clock : Instant) (request : Request) (scope : Scope) (id : Int) : Work Response := do
  let goal ← Goals.get scope id
  match Period.ofEnds clock (request.parameter? "start") (request.parameter? "end") with
  | .error fault => return refuseRange "range" fault
  | .ok range => return sendReport (← FunnelReports.analyze scope goal range).body

def earlierRange (clock : Instant) (request : Request) (range : DateRange) :
    Except Response DateRange :=
  match request.parameter? "previous_start", request.parameter? "previous_end" with
  | none, none => range.previousPeriod.mapError fun _ => .internalError
  | start, finish => (Period.ofEnds clock start finish).mapError (refuseRange "previous range")

def comparison (clock : Instant) (request : Request) (scope : Scope) (id : Int) :
    Work Response := do
  let goal ← Goals.get scope id
  match Period.ofEnds clock (request.parameter? "start") (request.parameter? "end") with
  | .error fault => return refuseRange "range" fault
  | .ok range =>
      match earlierRange clock request range with
      | .error response => return response
      | .ok earlier => return sendReport (← FunnelReports.compare scope goal range earlier).body

def bottlenecks (clock : Instant) (request : Request) (scope : Scope) (id : Int) (limit : Int) :
    Work Response := do
  let goal ← Goals.get scope id
  match Period.ofEnds clock (request.parameter? "start") (request.parameter? "end") with
  | .error fault => return refuseRange "range" fault
  | .ok range => do
      let steps ← FunnelReports.bottlenecks scope goal range limit
      return sendReport <| Value.record
        [("goal_id", .int goal.id), ("date_range", range.body),
          ("bottlenecks", .list (steps.map StepResult.body))]

def whenValid {α : Type} (checked : Checked α) (answer : α → Work Response) : Work Response :=
  match checked with
  | .valid parameters => answer parameters
  | .invalid issues => return .invalid issues

def withId (request : Request) (id : String) : Checked (Scope × Int) :=
  Prod.mk <$> request.scope <*> Request.goalId id

def route (clock : Instant) (request : Request) : Route → Work Response
  | .health => return .ok (Value.record [("status", .text "ok")])
  | .goals =>
      whenValid (Prod.mk <$> request.scope <*> request.active) fun (scope, active) =>
        goals scope active (request.parameter? "type")
  | .goal id => whenValid (withId request id) fun (scope, id) => goal scope id
  | .funnel id => whenValid (withId request id) fun (scope, id) => funnel clock request scope id
  | .comparison id =>
      whenValid (withId request id) fun (scope, id) => comparison clock request scope id
  | .bottlenecks id =>
      whenValid (Prod.mk <$> withId request id <*> request.limit) fun ((scope, id), limit) =>
        bottlenecks clock request scope id limit

/-- Answers a request at a moment. Only reading is allowed; a request for headers alone gets no
content. -/
def respond (clock : Instant) (request : Request) : Work Response :=
  let response : Work Response :=
    match Route.ofPath? request.path with
    | none => return .notFound
    | some wanted =>
        if request.method = "GET" then
          (route clock request wanted).recover fun fault => return ofFault fault
        else return .methodNotAllowed
  if request.method = "HEAD" then return { ← response with body := .text "" } else response

end Respond

end ConversionTracking
