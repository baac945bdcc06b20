import DeviceFlow.Document.Value
import DeviceFlow.Timestamp
import DeviceFlow.Variables
import DeviceFlow.Workflow.Encode

/-!
# Records of runs

What is kept of a run that has ended.
-/

namespace DeviceFlow

open Document (Value)

/-- How a run has ended. -/
inductive RunStatus where
  | completed
  | error
  | cancelled
  deriving DecidableEq, Repr

/-- The name of a status. -/
def RunStatus.name : RunStatus → String
  | .completed => "completed"
  | .error => "error"
  | .cancelled => "cancelled"

/-- What is kept of a run. -/
structure RunRecord where
  workflowId : String
  workflowName : String
  status : RunStatus
  startedAt : Timestamp
  finishedAt : Timestamp
  durationMs : Nat
  /-- The number of steps that were dispatched, those of called workflows included. -/
  steps : Nat
  error : Option String
  /-- The variables at the end. -/
  vars : Variables
  deriving DecidableEq

namespace RunRecord

/-- Whether the run has come to its end. -/
def isSuccess (r : RunRecord) : Bool := r.status = .completed

/-- A record as a document; the error is left out when there is none. -/
def encode (r : RunRecord) : List (String × Value) :=
  [("workflow_id", .text r.workflowId), ("workflow_name", .text r.workflowName),
    ("status", .text r.status.name), ("started_at", .text r.startedAt.text),
    ("finished_at", .text r.finishedAt.text), ("duration_ms", .int r.durationMs),
    ("steps_executed", .int r.steps)] ++
  setField "error" (r.error.map .text) ++
  [("variables", Variables.encode r.vars)]

end RunRecord

end DeviceFlow
