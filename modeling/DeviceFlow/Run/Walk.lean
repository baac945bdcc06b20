import DeviceFlow.Run.Perform

/-!
# Walking through a workflow

A run follows the connections of a workflow from its start step, repeats each step as often as
it says, and calls other workflows on its way. The number of dispatched steps is counted over
all levels of calls and limited, and so is the depth of calls; hence every walk ends. The
calls are passed in as a function, which is later tied to the walk itself, one level of
nesting at a time.
-/

namespace DeviceFlow

/-- What a run has come to so far. -/
structure Progress where
  vars : Variables
  /-- The number of steps that have been dispatched on all levels. -/
  steps : Nat
  deriving DecidableEq

/-- A way to carry out calls of workflows by their ids. -/
abbrev Call := String → Progress → Plan (Progress × Except StepError Unit)

/-- The device and the equipment of a run. -/
structure Session where
  rig : Rig
  device : String

namespace Session

variable (run : Session)

/-- Executes a step once. A call changes the progress also when it fails; every other step
    changes it only when it succeeds. -/
def executeStep (call : Call) (s : Step) (p : Progress) : Plan (Progress × StepOutcome) :=
  match s.kind with
  | .subWorkflow id =>
    match wired id with
    | none => return (p, .failed (.missingParameters "sub_workflow" ["workflow_id"]))
    | some id => do
      match ← call (p.vars.substitute id) p with
      | (p, .ok ()) => return (p, .ok)
      | (p, .error e) => return (p, .failed e)
  | _ => do
    match ← (s.perform run.rig p.vars).run with
    | .ok (outcome, vars) => return ({ p with vars := vars }, outcome)
    | .error e => return (p, .failed e)

/-- The error with which an outcome ends the run at once, if it does. -/
def fatalError? (s : Step) (outcome : StepOutcome) : Option RunError :=
  match outcome.error with
  | none => none
  | some .cancelled => some .cancelled
  | some (.aborted cause) => some cause
  | some e => if e.isFatal then some (.stepFailed s.id e) else none

/-- Reports a failure that does not end the run at once. -/
def reportFailure (s : Step) (number : Nat) (outcome : StepOutcome) : Plan Unit :=
  match outcome.error with
  | some e => Plan.log (.warn .run (s!"Step '{s.id}' failed on iteration {number}: " ++ e.message))
  | none => return ()

/-- Executes a step between the events that tell its beginning and its end. -/
def bracketStep (call : Call) (w : Workflow) (s : Step) (number : Nat) (p : Progress) :
    Plan (Progress × StepOutcome) := do
  let iteration : Iteration := ⟨run.device, w.id, s.id, s.typeName, number⟩
  Plan.emit (.stepStarted iteration)
  Plan.log (.debug .run s!"Running step '{s.id}' ({s.typeName}) iteration {number}")
  let startedAt ← Plan.clock
  let (p, outcome) ← run.executeStep call s p
  let endedAt ← Plan.clock
  Plan.emit (.stepEnded iteration (!outcome.isFailure) (endedAt - startedAt) outcome.errorMessage)
  return (p, outcome)

/-- Runs one iteration of a step with the pauses around it. There is no pause after a failure
    that ends the run. -/
def iterateOnce (call : Call) (w : Workflow) (s : Step) (number : Nat) (p : Progress) :
    Plan (Progress × Except RunError StepOutcome) := do
  if !(← Plan.sleep s.preWaitMs.toNat) then return (p, .error .cancelled)
  let (p, outcome) ← run.bracketStep call w s number p
  match fatalError? s outcome with
  | some e => return (p, .error e)
  | none =>
    reportFailure s number outcome
    if ← Plan.sleep s.postDelayMs.toNat then return (p, .ok outcome)
    else return (p, .error .cancelled)

/-- Whether a step is not repeated after an outcome. -/
def breaksLoop (s : Step) (outcome : StepOutcome) : Bool :=
  outcome.isFailure && s.onError = .stop

/-- Runs the iterations of a step that are left, the next of which has the given number. The
    outcome is that of the last one. -/
def iterate (call : Call) (w : Workflow) (s : Step) :
    Nat → Nat → Progress → Plan (Progress × Except RunError StepOutcome)
  | 0, _, p => return (p, .ok .ok)
  | left + 1, number, p => do
    match ← run.iterateOnce call w s number p with
    | (p, .error e) => return (p, .error e)
    | (p, .ok outcome) =>
      if left = 0 || breaksLoop s outcome then return (p, .ok outcome)
      else iterate call w s left (number + 1) p

/-- What keeps a run from dispatching another step: a cancellation, or the limit on steps. -/
def obstacle (p : Progress) : Plan (Option RunError) := do
  if ← Plan.isCancelled then return some .cancelled
  else if run.rig.settings.maxSteps ≤ p.steps then
    return some (.stepBudgetExceeded run.rig.settings.maxSteps)
  else return none

/-- The error with which a walk ends after the last step it reaches, if it does. -/
def endError? (s : Step) (outcome : StepOutcome) : Option RunError :=
  if s.next outcome = none ∧ s.onError = .stop then outcome.error.map (.stepFailed s.id ·)
  else none

/-- Walks on from the step with an id, or to the end when there is none. The first number is
    the number of steps that may still be dispatched. -/
def walkFrom (call : Call) (w : Workflow) :
    Nat → Option String → Progress → Plan (Progress × Except RunError Unit)
  | _, none, p => do
    Plan.log (.debug .run s!"Workflow '{w.id}' reached the end of its graph")
    return (p, .ok ())
  | 0, some _, p => do
    let e ← run.obstacle p
    return (p, .error (e.getD (.stepBudgetExceeded run.rig.settings.maxSteps)))
  | room + 1, some id, p => do
    match ← run.obstacle p with
    | some e => return (p, .error e)
    | none =>
      match w.target? id with
      | none => return (p, .error (.corruptGraph w.id id))
      | some s =>
        match ← run.iterate call w s s.iterations 1 { p with steps := p.steps + 1 } with
        | (p, .error e) => return (p, .error e)
        | (p, .ok outcome) =>
          match endError? s outcome with
          | some e => return (p, .error e)
          | none => walkFrom call w room (s.next outcome) p

/-- Walks through a workflow from its start step. -/
def walk (call : Call) (w : Workflow) (p : Progress) : Plan (Progress × Except RunError Unit) :=
  let p := { p with vars := p.vars.seed w.vars }
  match w.starts with
  | [start] =>
    run.walkFrom call w (run.rig.settings.maxSteps - p.steps) (wired start.connections.onSuccess) p
  | [] => return (p, .error (.noStartStep w.id))
  | starts => return (p, .error (.multipleStartSteps w.id starts.length))

/-- The error of a step whose called workflow has failed. -/
def asStepError (workflowId : String) (e : RunError) : StepError :=
  match e with
  | .cancelled => .cancelled
  | e => if e.isFatal then .aborted e else .subWorkflowFailed workflowId e.message

/-- The progress after a call: the variables of an isolated call are dropped. -/
def Progress.afterCall (scope : VariableScope) (before after : Progress) : Progress :=
  match scope with
  | .shared => after
  | .isolated => { after with vars := before.vars }

/-- Carries out a call, with the number of levels that calls may still be nested. -/
def call : Nat → Call
  | 0, _, p => return (p, .error (.nestingDepthExceeded run.rig.settings.maxNestingDepth))
  | levels + 1, id, p =>
    if !run.rig.hasStore then return (p, .error (.unavailable "workflow store"))
    else do
      match ← Plan.request (.load id) with
      | .error text => return (p, .error (.store text))
      | .ok none => return (p, .error (.workflowNotFound id))
      | .ok (some child) =>
        let depth := run.rig.settings.maxNestingDepth - levels
        Plan.log (.info .run s!"Entering sub-workflow '{child.id}' at depth {depth}")
        let (after, result) ← run.walk (call levels) child p
        let p := Progress.afterCall run.rig.settings.scope p after
        match result with
        | .ok () =>
          Plan.log (.debug .run s!"Sub-workflow '{child.id}' finished")
          return (p, .ok ())
        | .error e => return (p, .error (asStepError id e))

/-- Carries out a call of the outermost workflow. -/
def outermostCall : Call := run.call run.rig.settings.maxNestingDepth

/-- Tells how a run has ended. -/
def announceEnd (w : Workflow) (p : Progress) (status : RunStatus) (error : Option String)
    (durationMs : Nat) : Plan Unit :=
  match error with
  | some text => do
    Plan.log (.error .run s!"[{run.device}] Workflow '{w.name}' failed: {text}")
    Plan.emit (.runFailed run.device w.id text p.steps durationMs)
  | none => do
    Plan.log (.info .run
      s!"[{run.device}] Workflow '{w.name}' {status.name} after {p.steps} steps ({durationMs} ms)")
    Plan.emit (.runCompleted run.device w.id status p.steps durationMs)

/-- The status of a run and the text of its error, from how its walk has ended. A cancelled
    run has no error. -/
def conclusion (result : Except RunError Unit) : RunStatus × Option String :=
  match result with
  | .ok () => (.completed, none)
  | .error .cancelled => (.cancelled, none)
  | .error e => (.error, some e.message)

/-- Runs a workflow with the variables that the caller gives. -/
def execute (w : Workflow) (vars : Variables) : Plan RunRecord := do
  let startedAt ← Plan.date
  let startedMs ← Plan.clock
  Plan.log (.info .run s!"[{run.device}] Starting workflow '{w.name}' ({w.steps.length} steps)")
  Plan.emit (.runStarted run.device w.id w.name startedAt)
  let (p, result) ← run.walk run.outermostCall w ⟨vars, 0⟩
  let durationMs := (← Plan.clock) - startedMs
  let (status, error) := conclusion result
  run.announceEnd w p status error durationMs
  let finishedAt ← Plan.date
  return {
    workflowId := w.id
    workflowName := w.name
    status := status
    startedAt := startedAt
    finishedAt := finishedAt
    durationMs := durationMs
    steps := p.steps
    error := error
    vars := p.vars }

/-- Executes a single step outside of any workflow, without variables. -/
def executeAlone (s : Step) : Plan StepOutcome := do
  let (_, outcome) ← run.executeStep run.outermostCall s ⟨Dict.empty, 0⟩
  return outcome

end Session

end DeviceFlow
