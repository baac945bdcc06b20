import DeviceFlow.Manager.Registry
import DeviceFlow.Rehearsal.Task
import DeviceFlow.Run.Walk

/-!
# Tasks on one scene

Several tasks share a scene and the registry of devices. What can happen to them are the moves
below: a task is started, told to stop, aborted, or gets its turn, in any order. A run claims
its device when it is started; a single step when it first gets its turn. Whatever way a task
ends in, it frees the device that it holds.
-/

namespace DeviceFlow.Rehearsal

/-- Tasks on one scene. A task is known by its place in the list. -/
structure Ensemble where
  scene : Scene
  registry : Registry
  tasks : List Task
  /-- The tasks that wait for their turn. -/
  queue : List Nat
  /-- The tasks that wait for a time, in the order in which they began to wait. -/
  sleepers : List Nat

namespace Ensemble

/-- An ensemble without tasks. -/
def opening (scene : Scene) : Ensemble := ⟨scene, Registry.empty, [], [], []⟩

variable (cast : Cast) (m : Ensemble)

/-- The task with a number. -/
def task? (n : Nat) : Option Task := m.tasks[n]?

/-- How the task with a number has ended, if it has. -/
def completion? (n : Nat) : Option Completion := (m.task? n).bind Task.completion?

/-- Changes the task with a number. -/
def modify (n : Nat) (f : Task → Task) : Ensemble := { m with tasks := m.tasks.modify n f }

/-- Keeps lines of the log. -/
def keep (records : List LogRecord) : Ensemble := { m with scene := m.scene.keep records }

/-- Puts a task at the end of the queue, unless it is in there. -/
def enqueue (n : Nat) : Ensemble :=
  if m.queue.contains n then m else { m with queue := m.queue ++ [n] }

/-- Adds a task with the next number. -/
def add (t : Task) : Ensemble := { m with tasks := m.tasks ++ [t] }

/-- Starts a run, which gets its first turn later. -/
def start (device : String) (w : Workflow) (vars : Variables) :
    Except RunError (Ensemble × Nat) := do
  let n := m.tasks.length
  let registry ← m.registry.claim device n
  let run : Session := ⟨cast.rig, device⟩
  let plan : Plan Ending := do return .ran (← run.execute w vars)
  let t : Task := ⟨device, some (w, m.scene.nowMs), false, false, .ready plan⟩
  return ((({ m with registry := registry }.add t).enqueue n).keep
    (Registry.admissionLog w device), n)

/-- Adds a single step, which claims its device at its first turn. -/
def addSingle (device : String) (s : Step) : Ensemble × Nat :=
  let run : Session := ⟨cast.rig, device⟩
  let plan : Plan Ending := do return .performed (← run.executeAlone s)
  (m.add ⟨device, none, false, false, .applying plan⟩, m.tasks.length)

/-- Cancels a task. A pause of it comes to its end. -/
def cancel (n : Nat) : Ensemble :=
  match m.task? n with
  | none => m
  | some t =>
    let m := m.modify n fun t => { t with isCancelled := true }
    if t.isPausing then m.enqueue n else m

/-- Tells the holder of a device to stop; whether there is one. -/
def stop (device : String) : Ensemble × Bool :=
  match m.registry.holder? device with
  | none => (m, false)
  | some n => ((m.keep (Registry.stoppingLog device)).cancel n, true)

/-- Tells the holders of all devices to stop, and how many there are. -/
def stopAll : Ensemble × Nat :=
  (m.registry.holders.toList.foldl (fun m e => m.cancel e.2) m, m.registry.holders.size)

/-- Aborts a task, which ends at its next turn. -/
def abort (n : Nat) : Ensemble :=
  match m.completion? n with
  | some _ => m
  | none => (m.modify n fun t => { t with isAborted := true }).enqueue n

/-- The record of a run that ends now, but not by itself. -/
def abnormalRecord (w : Workflow) (admittedMs : Nat) : RunRecord :=
  Registry.abnormalRecord w (openingDate.addMillis admittedMs) m.scene.date
    (m.scene.nowMs - admittedMs)

/-- Frees the device of a task that has ended, and keeps the record if it was a run. -/
def free (t : Task) (c : Completion) : Ensemble :=
  if t.isHolder then
    match t.admitted, c with
    | some _, .ended (.ran record) =>
      { m with registry := m.registry.release t.device (some record) }
    | some (w, admittedMs), .aborted | some (w, admittedMs), .broken =>
      { m.keep (Registry.abnormalLog w t.device) with
        registry := m.registry.release t.device (some (m.abnormalRecord w admittedMs)) }
    | _, _ => { m with registry := m.registry.release t.device none }
  else m

/-- Gives a task a new state; the device is freed when the task is over. -/
def settle (n : Nat) (t : Task) (state : TaskState) : Ensemble :=
  let others := m.sleepers.filter (· ≠ n)
  let m := { m.modify n fun t => { t with state := state } with sleepers := others }
  match state with
  | .over c => m.free t c
  | .busy .. | .pausing .. => { m with sleepers := others ++ [n] }
  | .applying _ | .ready _ => m

/-- A task that holds its device goes on with a plan. -/
def goOn (n : Nat) (t : Task) (plan : Plan Ending) : Ensemble :=
  let (scene, pace) := cast.advance t.device t.isCancelled plan m.scene
  { m with scene := scene }.settle n t (Task.stateAfter pace)

/-- A task gets its turn. Nothing happens when it waits for a time that has not come. -/
def turn (n : Nat) : Ensemble :=
  match m.task? n with
  | none => m
  | some t =>
    match t.state with
    | .over _ => m
    | state =>
      if t.isAborted then m.settle n t (.over .aborted)
      else
        match state with
        | .applying plan =>
          match m.registry.claim t.device n with
          | .error e => m.settle n t (.over (.refused e))
          | .ok registry =>
            { m with registry := registry }.goOn cast n { t with state := .ready plan } plan
        | .ready plan => m.goOn cast n t plan
        | .busy untilMs resume =>
          if m.scene.nowMs < untilMs then m
          else
            let (scene, plan) := resume m.scene
            { m with scene := scene }.goOn cast n t plan
        | .pausing untilMs resume =>
          -- A cancellation may come when the time is over already, but the task has not had its
          -- turn. It could see either first; here it is the time.
          if untilMs ≤ m.scene.nowMs then m.goOn cast n t (resume true)
          else if t.isCancelled then m.goOn cast n t (resume false)
          else m
        | .over _ => m

end Ensemble

end DeviceFlow.Rehearsal
