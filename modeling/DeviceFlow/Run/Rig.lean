import DeviceFlow.Run.Error
import DeviceFlow.Run.Plan
import DeviceFlow.Settings.Basic

/-!
# Rigs

A rig is what a run is carried out with: its settings, and which of the optional helpers there
are beside the device. A step that needs a missing one fails.
-/

namespace DeviceFlow

/-- The settings of a run and the helpers that it can count on. -/
structure Rig where
  settings : Settings
  /-- Whether the screen can be looked at. -/
  hasScreen : Bool
  /-- Whether there is a player of recorded scripts. -/
  hasScripts : Bool
  /-- Whether there is a store of workflows. -/
  hasStore : Bool
  deriving DecidableEq, Repr

/-- A plan that may fail with a step's error. -/
abbrev Attempt (α : Type) := ExceptT StepError Plan α

namespace Attempt

/-- Keeps a line of the log. -/
def log (record : LogRecord) : Attempt Unit := ExceptT.lift (Plan.log record)

/-- Keeps several lines of the log. -/
def logAll : List LogRecord → Attempt Unit
  | [] => pure ()
  | record :: rest => do
    log record
    logAll rest

/-- Fails unless a helper is there. -/
def require (present : Bool) (what : String) : Attempt Unit :=
  if present then pure () else throw (.unavailable what)

/-- Fails with a step's error about missing parameters unless there is a value. -/
def parameter {α : Type} (stepType name : String) (value : Option α) : Attempt α :=
  match value with
  | some a => pure a
  | none => throw (.missingParameters stepType [name])

/-- The answer of a device or of its helpers, or a failure with the error. -/
def device {α : Type} (plan : Plan (Except DeviceError α)) : Attempt α := do
  match ← ExceptT.lift plan with
  | .ok a => pure a
  | .error e => throw (.device e)

/-- Has the device do something. -/
def perform (call : DeviceCall) : Attempt String := device (Plan.request (.perform call))

/-- Replays a recorded script. -/
def play (script : String) : Attempt Unit := device (Plan.request (.play script))

/-- Looks at the screen. -/
def look : Attempt Screen := device (Plan.request .look)

/-- Lets some time pass, or fails when the run is cancelled meanwhile. -/
def sleep (ms : Nat) : Attempt Unit := do
  if ← ExceptT.lift (Plan.sleep ms) then pure () else throw .cancelled

end Attempt

end DeviceFlow
