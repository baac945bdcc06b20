import DeviceFlow.Document.Value
import DeviceFlow.Workflow.Basic

/-!
# Workflows as documents

The tree of values that a workflow is written as. Parameters that are missing are written as
nothing, so that a reader of the file sees which there are; connections, the timeout of a step
and the stamps of a workflow are left out when they are not set.
-/

namespace DeviceFlow

open Document (Value)

/-- An optional integer. -/
def int32Value (i : Option Int32) : Value :=
  match i with
  | some i => .int i.toInt
  | none => .null

/-- An optional natural number. -/
def uint64Value (n : Option UInt64) : Value :=
  match n with
  | some n => .int n.toNat
  | none => .null

/-- A selector. -/
def Selector.encode (s : Selector) : Value :=
  .table [("by", .text s.kind.name), ("value", .text s.value)]

/-- An optional selector. -/
def selectorValue (s : Option Selector) : Value :=
  match s with
  | some s => s.encode
  | none => .null

/-- The parameters of a kind. -/
def StepKind.parameters : StepKind → List (String × Value)
  | .start | .unsupported => []
  | .tap x y => [("x", int32Value x), ("y", int32Value y)]
  | .swipe x1 y1 x2 y2 duration =>
    [("x1", int32Value x1), ("y1", int32Value y1), ("x2", int32Value x2), ("y2", int32Value y2),
      ("duration_ms", uint64Value duration)]
  | .element action selector text direction =>
    [("action", .ofText? (action.map (·.name))), ("selector", selectorValue selector),
      ("text", .ofText? text), ("direction", .ofText? (direction.map (·.name)))]
  | .app action package =>
    [("action", .ofText? (action.map (·.name))), ("package", .ofText? package)]
  | .branch condition selector variableName expectedValue =>
    [("condition", .ofText? condition), ("selector", selectorValue selector),
      ("variable_name", .ofText? variableName), ("expected_value", .ofText? expectedValue)]
  | .wait duration => [("duration_ms", uint64Value duration)]
  | .script name => [("name", .ofText? name)]
  | .setVariable name value => [("name", .ofText? name), ("value", .ofText? value)]
  | .readToVariable name selector what =>
    [("name", .ofText? name), ("selector", selectorValue selector),
      ("attribute", .text what.name)]
  | .shell command saveTo => [("command", .ofText? command), ("save_to", .ofText? saveTo)]
  | .subWorkflow id => [("workflow_id", .ofText? id)]
  | .keyEvent code => [("key_code", int32Value code)]

/-- A field that is written only when it is set. -/
def setField (name : String) (value : Option Value) : List (String × Value) :=
  match value with
  | some v => [(name, v)]
  | none => []

/-- The connections of a step. -/
def Connections.encode (c : Connections) : Value :=
  .table <|
    setField "success_step_id" (c.onSuccess.map .text) ++
    setField "error_step_id" (c.onError.map .text) ++
    setField "true_step_id" (c.onTrue.map .text) ++
    setField "false_step_id" (c.onFalse.map .text)

/-- A step. -/
def Step.encode (s : Step) : Value :=
  .table <|
    [("id", .text s.id), ("type", .text s.typeName)] ++ s.kind.parameters ++
    [("loop_count", .int s.loopCount.toInt), ("pre_wait_ms", .int s.preWaitMs.toNat),
      ("post_delay_ms", .int s.postDelayMs.toNat)] ++
    setField "timeout_ms" (s.timeoutMs.map fun n => .int n.toNat) ++
    [("on_error", .text s.onError.name), ("connections", s.connections.encode)]

/-- Named texts. -/
def Variables.encode (vars : Variables) : Value :=
  .table (vars.entries.map fun e => (e.1, .text e.2))

/-- A workflow. -/
def Workflow.encode (w : Workflow) : Value :=
  .table <|
    [("id", .text w.id), ("name", .text w.name), ("variables", Variables.encode w.vars),
      ("steps", .list (w.steps.map Step.encode))] ++
    setField "created_at" (w.createdAt.map fun t => .text t.text) ++
    setField "updated_at" (w.updatedAt.map fun t => .text t.text)

end DeviceFlow
