import DeviceFlow.Run.Record

/-!
# Events

What a run tells while it goes on: that it has started, each iteration of a step when it
starts and when it ends, and how the run has ended.
-/

namespace DeviceFlow

open Document (Value)

/-- One iteration of a step of a workflow on a device. -/
structure Iteration where
  device : String
  workflowId : String
  stepId : String
  stepType : String
  /-- The number of the iteration, counted from one. -/
  number : Nat
  deriving DecidableEq, Repr

/-- An event. -/
inductive Event where
  | runStarted (device workflowId workflowName : String) (time : Timestamp)
  | stepStarted (iteration : Iteration)
  | stepEnded (iteration : Iteration) (success : Bool) (durationMs : Nat) (error : Option String)
  | runCompleted (device workflowId : String) (status : RunStatus) (steps durationMs : Nat)
  | runFailed (device workflowId error : String) (steps durationMs : Nat)
  deriving DecidableEq

/-- An iteration as a part of a document. -/
def Iteration.encode (i : Iteration) : List (String × Value) :=
  [("device_id", .text i.device), ("workflow_id", .text i.workflowId),
    ("step_id", .text i.stepId), ("step_type", .text i.stepType), ("iteration", .int i.number)]

/-- An event as a document. -/
def Event.encode : Event → Value
  | .runStarted device workflowId workflowName time =>
    .table
      [("event", .text "run_started"), ("device_id", .text device),
        ("workflow_id", .text workflowId), ("workflow_name", .text workflowName),
        ("timestamp", .text time.text)]
  | .stepStarted iteration => .table (("event", .text "step_started") :: iteration.encode)
  | .stepEnded iteration success durationMs error =>
    .table (("event", .text "step_ended") :: iteration.encode ++
      [("success", .bool success), ("duration_ms", .int durationMs), ("error", .ofText? error)])
  | .runCompleted device workflowId status steps durationMs =>
    .table
      [("event", .text "run_completed"), ("device_id", .text device),
        ("workflow_id", .text workflowId), ("status", .text status.name),
        ("steps_executed", .int steps), ("duration_ms", .int durationMs)]
  | .runFailed device workflowId error steps durationMs =>
    .table
      [("event", .text "run_failed"), ("device_id", .text device),
        ("workflow_id", .text workflowId), ("error", .text error),
        ("steps_executed", .int steps), ("duration_ms", .int durationMs)]

end DeviceFlow
