import DeviceFlow.Log
import DeviceFlow.Workflow.Basic

/-!
# Well-formed workflows

A workflow can be run when it has steps with distinct ids that are not blank, exactly one of
them a start step, and every connection leads to a step. `validate` decides that and names
the first thing that is wrong; cycles are allowed.
-/

namespace DeviceFlow

/-- Why a workflow is not well-formed. -/
inductive ValidationError where
  | emptyWorkflow
  | emptyStepId
  | duplicateStepId (id : String)
  | missingStartStep
  | multipleStartSteps (ids : List String)
  | invalidReference (step reference : String)
  deriving DecidableEq, Repr

/-- The text of an error. -/
def ValidationError.message : ValidationError → String
  | .emptyWorkflow => "Workflow has no steps"
  | .emptyStepId => "Step has empty or whitespace-only ID"
  | .duplicateStepId id => s!"Duplicate step ID: '{id}'"
  | .missingStartStep => "Workflow has no start step"
  | .multipleStartSteps ids =>
    s!"Workflow has {ids.length} start steps: " ++ String.intercalate ", " ids
  | .invalidReference step reference => s!"Step '{step}' references unknown step '{reference}'"

namespace Workflow

/-- The ids of the steps. -/
def stepIds (w : Workflow) : List String :=
  w.steps.map (·.id)

/-- What can be run: every id is a proper name of one step, there is one start step, and every
    connection leads to a step. -/
structure WellFormed (w : Workflow) : Prop where
  nonempty : w.steps ≠ []
  named : ∀ s ∈ w.steps, Text.isBlankText s.id = false
  distinct : w.stepIds.Nodup
  oneStart : w.starts.length = 1
  closed : ∀ s ∈ w.steps, ∀ target ∈ s.connections.targets, target ∈ w.stepIds

/-- Checks the ids of steps one by one, given the ids before them. -/
def checkIds (seen : List String) : List Step → Except ValidationError Unit
  | [] => .ok ()
  | s :: rest =>
    if Text.isBlankText s.id then .error .emptyStepId
    else if seen.contains s.id then .error (.duplicateStepId s.id)
    else checkIds (s.id :: seen) rest

/-- Checks that there is one start step. -/
def checkStarts (w : Workflow) : Except ValidationError Unit :=
  match w.starts with
  | [] => .error .missingStartStep
  | [_] => .ok ()
  | starts => .error (.multipleStartSteps (starts.map (·.id)))

/-- The first connection of a step that leads to none of the ids. -/
def danglingTarget? (ids : List String) (s : Step) : Option String :=
  s.connections.targets.find? fun target => !ids.contains target

/-- Checks the connections of steps one by one. -/
def checkReferences (ids : List String) : List Step → Except ValidationError Unit
  | [] => .ok ()
  | s :: rest =>
    match danglingTarget? ids s with
    | some target => .error (.invalidReference s.id target)
    | none => checkReferences ids rest

/-- Whether a workflow is well-formed, with the first thing that is wrong otherwise. -/
def validate (w : Workflow) : Except ValidationError Unit := do
  if w.steps.isEmpty then throw .emptyWorkflow
  checkIds [] w.steps
  checkStarts w
  checkReferences w.stepIds w.steps

/-! ## The log of a validation -/

/-- Remarks on settings of a step that are allowed but suspicious. -/
def remarks (s : Step) : List LogRecord :=
  let c := s.connections
  (if s.loopCount < 1 then
    [.warn .validation s!"Step '{s.id}': loop count {s.loopCount.toInt} will run once"] else []) ++
  (if !s.kind.isBranch && (c.onTrue.isSome || c.onFalse.isSome) then
    [.warn .validation s!"Step '{s.id}': true/false connections are ignored on {s.typeName} steps"]
    else []) ++
  (if s.kind.isBranch && c.onSuccess.isSome then
    [.debug .validation (s!"Step '{s.id}': success connection used only if " ++
      "the condition cannot be evaluated")]
    else [])

/-- The steps up to the first one with a dangling connection, which is the last of them. -/
def checkedSteps (ids : List String) : List Step → List Step
  | [] => []
  | s :: rest => s :: if (danglingTarget? ids s).isSome then [] else checkedSteps ids rest

/-- What a validation reports. Remarks are made on the steps whose connections are looked at. -/
def validationLog (w : Workflow) : List LogRecord :=
  let opening :=
    LogRecord.info .validation s!"Validating workflow '{w.id}' with {w.steps.length} steps"
  let looked :=
    match w.validate with
    | .ok () | .error (.invalidReference ..) => (checkedSteps w.stepIds w.steps).flatMap remarks
    | .error _ => []
  let closing :=
    match w.validate with
    | .ok () => [LogRecord.info .validation s!"Workflow '{w.id}' validated"]
    | .error _ => []
  opening :: looked ++ closing

end Workflow

end DeviceFlow
