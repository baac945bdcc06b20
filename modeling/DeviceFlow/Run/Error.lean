import DeviceFlow.Device.Basic

/-!
# Failures of steps and runs

A step fails with a `StepError`, a run ends with a `RunError`; each can be the cause of the
other, as a step may run another workflow. Errors of configuration and of limits are fatal:
they end the run whatever the wiring of the step.
-/

namespace DeviceFlow

mutual

/-- Why one iteration of a step fails. -/
inductive StepError where
  | missingParameters (stepType : String) (missing : List String)
  | unsupportedStep
  | unknownCondition (name : String)
  /-- Something that the step needs has not been given to the engine. -/
  | unavailable (what : String)
  | device (cause : DeviceError)
  | workflowNotFound (id : String)
  | store (text : String)
  | nestingDepthExceeded (limit : Nat)
  /-- A called workflow failed in a way that the calling run can handle. -/
  | subWorkflowFailed (workflowId text : String)
  /-- A called workflow failed in a way that ends the calling run as well. -/
  | aborted (cause : RunError)
  | cancelled

/-- Why a run, or the run of a called workflow, ends before its time. -/
inductive RunError where
  | alreadyRunning (device : String)
  | noStartStep (workflowId : String)
  | multipleStartSteps (workflowId : String) (count : Nat)
  /-- A connection leads to no step. -/
  | corruptGraph (workflowId stepId : String)
  | stepBudgetExceeded (limit : Nat)
  | stepFailed (stepId : String) (cause : StepError)
  | cancelled

end

instance : Inhabited StepError := ⟨.cancelled⟩

instance : Inhabited RunError := ⟨.cancelled⟩

mutual

/-- The text of a step's error. -/
def StepError.message : StepError → String
  | .missingParameters stepType missing =>
    s!"{stepType} step is missing parameters: " ++ String.intercalate ", " missing
  | .unsupportedStep => "unsupported step type"
  | .unknownCondition name => s!"unknown branch condition '{name}'"
  | .unavailable what => s!"{what} is not configured"
  | .device cause => cause.message
  | .workflowNotFound id => s!"workflow '{id}' not found"
  | .store text => s!"workflow store error: {text}"
  | .nestingDepthExceeded limit => s!"maximum nesting depth exceeded (limit {limit})"
  | .subWorkflowFailed workflowId text => s!"sub-workflow '{workflowId}' failed: {text}"
  | .aborted cause => cause.message
  | .cancelled => "cancelled"

/-- The text of a run's error. -/
def RunError.message : RunError → String
  | .alreadyRunning device => s!"a workflow is already running on device '{device}'"
  | .noStartStep workflowId => s!"workflow '{workflowId}' has no start step"
  | .multipleStartSteps workflowId count => s!"workflow '{workflowId}' has {count} start steps"
  | .corruptGraph workflowId stepId =>
    s!"corrupt graph: step '{stepId}' not found in workflow '{workflowId}'"
  | .stepBudgetExceeded limit => s!"step budget exceeded ({limit} steps)"
  | .stepFailed stepId cause => s!"step '{stepId}' failed: " ++ cause.message
  | .cancelled => "cancelled"

end

/-- Whether a step's error ends the run at once. -/
def StepError.isFatal : StepError → Bool
  | .device _ | .subWorkflowFailed .. | .cancelled => false
  | _ => true

/-- Whether an error of a called workflow ends the calling run as well. -/
def RunError.isFatal : RunError → Bool
  | .stepFailed _ cause => cause.isFatal
  | .alreadyRunning _ | .cancelled => false
  | _ => true

end DeviceFlow
