import ConversionTracking.Definition.Step

/-!
Definitions of goals: their fields, and the rules that hold between fields.
-/

namespace ConversionTracking

structure GoalDefinition where
  name : String
  goalType : String
  description : Option String
  conditions : Fields
  valueType : String
  fixedValue : Option Binary64
  dynamicPath : Option String
  allowMultiple : Bool
  isActive : Bool
  funnelSteps : Option (List Fields)
  siteId : Option Int
  tenantId : Option String

namespace GoalDefinition

def fieldNames : List String :=
  ["name", "type", "description", "conditions", "value_type", "fixed_value", "dynamic_value_path",
    "allow_multiple", "is_active", "funnel_steps", "site_id", "tenant_id"]

def ofEntries (entries : Entries) : Checked GoalDefinition :=
  GoalDefinition.mk
    <$> entries.required "name" FieldKind.name
    <*> entries.required "type" FieldKind.text
    <*> entries.optional "description" FieldKind.text
    <*> entries.withDefault "conditions" [] FieldKind.fields
    <*> entries.withDefault "value_type" "none" FieldKind.text
    <*> entries.optional "fixed_value" FieldKind.number
    <*> entries.optional "dynamic_value_path" FieldKind.text
    <*> entries.withDefault "allow_multiple" false FieldKind.truth
    <*> entries.withDefault "is_active" true FieldKind.truth
    <*> entries.optional "funnel_steps" (FieldKind.items FieldKind.fields)
    <*> entries.optional "site_id" FieldKind.whole
    <*> entries.optional "tenant_id" FieldKind.text

def unexpected (entries : Entries) : List Issue :=
  entries.filterMap fun entry =>
    match entry.1 with
    | .text name =>
        if fieldNames.contains name then none
        else some ⟨[.field name], .unexpected, entry.2.isWritable⟩
    | _ => none

def inconsistent (cause : Inconsistency) : Fault :=
  .definition (.invalidGoal [.inconsistent cause])

def ofPart : Fault → Fault
  | .definition (.part fault) => inconsistent (.invalidPart fault)
  | fault => fault

/-- The rules between fields, in order: known types, the value that the value type asks for, and
conditions and steps that can be read. -/
def checkConsistency (definition : GoalDefinition) : Outcome Unit :=
  if !goalTypes.contains definition.goalType then .fail (inconsistent .unknownType)
  else if !valueTypes.contains definition.valueType then .fail (inconsistent .unknownValueType)
  else if definition.valueType = "fixed" ∧ definition.fixedValue.isNone then
    .fail (inconsistent .fixedValueMissing)
  else if definition.valueType = "dynamic" ∧ (definition.dynamicPath.getD "").isEmpty then
    .fail (inconsistent .dynamicPathMissing)
  else
    let parts : Outcome Unit := do
      let _ ← Outcome.ofExcept
        ((Conditions.read definition.goalType definition.conditions.toValue).mapError
          PartFault.shown)
      let _ ← FunnelStep.readAll ((definition.funnelSteps.getD []).map Fields.toValue)
      return ()
    parts.recover fun fault => .fail (ofPart fault)

def refusal (isWritable : Bool) (issues : List GoalIssue) : Fault :=
  if isWritable then .definition (.invalidGoal issues) else .number .tooLongToWrite

def validate (attributes : Entries) : Outcome GoalDefinition :=
  if attributes.any fun entry => entry.1.text?.isNone then .fail .kindMismatch
  else
    let checked := ofEntries attributes
    match checked, checked.issues ++ unexpected attributes with
    | .valid definition, [] => do
        definition.checkConsistency.recover fun fault =>
          match fault with
          | .definition (.invalidGoal issues) =>
              .fail (refusal (Value.entriesAreWritable attributes) issues)
          | fault => .fail fault
        return definition
    | _, issues => .fail (refusal (issues.all (·.isWritable)) (issues.map .field))

def stepsValue (definition : GoalDefinition) : Value :=
  (definition.funnelSteps.map fun steps => Value.list (steps.map Fields.toValue)).getD .null

def toEntries (definition : GoalDefinition) : Entries :=
  let orNull {α : Type} (wrap : α → Value) (value : Option α) : Value := (value.map wrap).getD .null
  [ (.text "name", .text definition.name),
    (.text "type", .text definition.goalType),
    (.text "description", orNull .text definition.description),
    (.text "conditions", definition.conditions.toValue),
    (.text "value_type", .text definition.valueType),
    (.text "fixed_value", orNull .float definition.fixedValue),
    (.text "dynamic_value_path", orNull .text definition.dynamicPath),
    (.text "allow_multiple", .bool definition.allowMultiple),
    (.text "is_active", .bool definition.isActive),
    (.text "funnel_steps", definition.stepsValue),
    (.text "site_id", orNull .int definition.siteId),
    (.text "tenant_id", orNull .text definition.tenantId) ]

end GoalDefinition

end ConversionTracking
