import ConversionTracking.Definition.Conditions

/-!
Steps of a funnel: events or page views with their criteria, which stand beside the other fields of
the step or in a map of their own.
-/

namespace ConversionTracking

structure EventStep where
  name : Option String
  eventName : Option String
  category : Option String
  properties : Fields

structure PageViewStep where
  name : Option String
  pathExact : Option String
  path : Option String
  pattern : Option String
  regex : Option String
  contains : Option String
deriving DecidableEq, Repr

inductive FunnelStep where
  | event (step : EventStep)
  | pageView (step : PageViewStep)

def firstGiven (first second : Option String) : Option String :=
  match first with
  | some text => if text.isEmpty then second else some text
  | none => second

def EventStep.matchName (step : EventStep) : Option String := firstGiven step.eventName step.name

def PageViewStep.exactPath (step : PageViewStep) : Option String :=
  firstGiven step.pathExact step.path

namespace FunnelStep

def name : FunnelStep → Option String
  | .event step => step.name
  | .pageView step => step.name

def typeName : FunnelStep → String
  | .event _ => "event"
  | .pageView _ => "pageview"

/-- Puts criteria over the other fields. A name among the criteria is the name of the event, and the
name of the step only when the step has none. -/
def overlay (outer criteria : Entries) : Entries :=
  criteria.foldl (fun merged entry =>
    match entry.1 with
    | .text "name" =>
        Entries.insertMissing (Entries.insertMissing merged "event_name" entry.2) "name" entry.2
    | key => Entries.insert merged key entry.2) outer

/-- The fields of a step with its criteria among them. Criteria of one key count once, with the last
value. -/
def flatten (entries : Entries) : Entries :=
  match Entries.field entries "criteria" with
  | .map criteria =>
      overlay (entries.filter fun entry => !entry.1.equals (.text "criteria"))
        (Entries.ofList criteria)
  | _ => entries

def eventOf (entries : Entries) : Checked FunnelStep :=
  (fun name (_ : Unit) eventName category properties =>
      FunnelStep.event { name, eventName, category, properties })
    <$> entries.optional "name" FieldKind.text
    <*> entries.withDefault "type" () (FieldKind.choice "event")
    <*> entries.optional "event_name" FieldKind.text
    <*> entries.optional "event_category" FieldKind.text
    <*> entries.withDefault "property_matches" [] FieldKind.fields

def pageViewOf (entries : Entries) : Checked FunnelStep :=
  (fun name (_ : Unit) pathExact path pattern regex contains =>
      FunnelStep.pageView { name, pathExact, path, pattern, regex, contains })
    <$> entries.optional "name" FieldKind.text
    <*> entries.required "type" (FieldKind.choice "pageview")
    <*> entries.optional "path_exact" FieldKind.text
    <*> entries.optional "path" FieldKind.text
    <*> entries.optional "path_pattern" FieldKind.text
    <*> entries.optional "path_regex" FieldKind.text
    <*> entries.optional "path_contains" FieldKind.text

def givenType (entries : Entries) : Value :=
  let type := Entries.field entries "type"
  if type.isGiven then type else .text "event"

def checkedStep (checked : Checked FunnelStep) : Outcome (Option FunnelStep) :=
  match checked with
  | .valid step => pure (some step)
  | .invalid issues => .fail (PartFault.invalidStep issues).shown

def read (raw : Value) : Outcome (Option FunnelStep) :=
  match raw with
  | .map entries =>
      let type := givenType entries
      let typed := flatten (Entries.insertField entries "type" type)
      match type with
      | .text "event" => checkedStep (eventOf typed)
      | .text "pageview" => checkedStep (pageViewOf typed)
      | _ =>
          if !type.isKey then .fail .kindMismatch
          else if !type.isWritable then .fail (.number .tooLongToWrite)
          else do
            Outcome.note .stepTypeUnknown
            return none
  | _ => .fail (PartFault.stepNotMap raw.kindName).shown

def readAll : List Value → Outcome (List (Option FunnelStep))
  | [] => pure []
  | raw :: rest => do
      let step ← read raw
      return step :: (← readAll rest)

end FunnelStep

end ConversionTracking
