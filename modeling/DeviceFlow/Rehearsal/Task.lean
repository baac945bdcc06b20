import DeviceFlow.Rehearsal.Scene
import DeviceFlow.Run.Outcome

/-!
# Tasks

A task is a run, or a single step, that goes on beside others on one scene. It goes on until it
has to wait for something, and comes back to it later.
-/

namespace DeviceFlow.Rehearsal

/-- What a plan has come to after it went on as far as it could. -/
inductive Pace (α : Type) where
  | done (result : α)
  /-- A listener has broken it down. -/
  | broken
  /-- It waits until a time, whatever happens. -/
  | busy (untilMs : Nat) (resume : Scene → Scene × Plan α)
  /-- It pauses until a time or a cancellation; it goes on according to whether the pause has
      not been cut short. -/
  | pausing (untilMs : Nat) (resume : Bool → Plan α)

/-- Whether a listener breaks down at a request. -/
def Cast.breaksAt (cast : Cast) : Request → Bool
  | .emit (.stepEnded i ..) => cast.breaksAtEndOf = some i.stepId
  | _ => false

/-- Lets a plan go on until it has to wait. -/
def Cast.advance (cast : Cast) (device : String) (isCancelled : Bool) {α : Type} :
    Plan α → Scene → Scene × Pace α
  | .done a, scene => (scene, .done a)
  | .ask q next, scene =>
    let (scene, turn) := cast.begin device (fun _ => isCancelled) q scene
    if cast.breaksAt q then (scene, .broken)
    else
      match turn with
      | .now a => Cast.advance cast device isCancelled (next a) scene
      | .later ms finish =>
        (scene, .busy (scene.nowMs + ms) fun scene =>
          let (scene, a) := finish scene
          (scene, next a))
      | .pause ms finish =>
        if isCancelled then Cast.advance cast device isCancelled (next (finish false)) scene
        else if ms = 0 then Cast.advance cast device isCancelled (next (finish true)) scene
        else (scene, .pausing (scene.nowMs + ms) fun whole => next (finish whole))

/-- What a task gives back when it ends by itself. -/
inductive Ending where
  | ran (record : RunRecord)
  | performed (outcome : StepOutcome)

/-- How a task has ended. -/
inductive Completion where
  | ended (ending : Ending)
  /-- It did not get its device. -/
  | refused (cause : RunError)
  | aborted
  /-- A listener has broken it down. -/
  | broken

/-- How far a task has come. -/
inductive TaskState where
  /-- It has still to claim its device. -/
  | applying (plan : Plan Ending)
  /-- It can go on. -/
  | ready (plan : Plan Ending)
  | busy (untilMs : Nat) (resume : Scene → Scene × Plan Ending)
  | pausing (untilMs : Nat) (resume : Bool → Plan Ending)
  | over (completion : Completion)

/-- A task on a device. -/
structure Task where
  device : String
  /-- The workflow of a run, and the time at which it was admitted; none for a single step. -/
  admitted : Option (Workflow × Nat)
  isCancelled : Bool
  isAborted : Bool
  state : TaskState

namespace Task

/-- How the task has ended, if it has. -/
def completion? (t : Task) : Option Completion :=
  match t.state with
  | .over c => some c
  | _ => none

/-- The time at which the task goes on by itself, if it waits for one. -/
def dueMs? (t : Task) : Option Nat :=
  match t.state with
  | .busy ms _ | .pausing ms _ => some ms
  | _ => none

/-- Whether the task holds its device. -/
def isHolder (t : Task) : Bool :=
  match t.state with
  | .ready _ | .busy .. | .pausing .. => true
  | .applying _ | .over _ => false

/-- Whether the task pauses. -/
def isPausing (t : Task) : Bool :=
  match t.state with
  | .pausing .. => true
  | _ => false

/-- The state that follows a pace. -/
def stateAfter : Pace Ending → TaskState
  | .done e => .over (.ended e)
  | .broken => .over .broken
  | .busy ms resume => .busy ms resume
  | .pausing ms resume => .pausing ms resume

end Task

end DeviceFlow.Rehearsal
