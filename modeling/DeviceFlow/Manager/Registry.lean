import DeviceFlow.Log
import DeviceFlow.Run.Error
import DeviceFlow.Run.Record

/-!
# The registry of devices

A device serves one task at a time: a run, or a single step. The registry knows which task
holds each device, and keeps the record of the last run on each device that has ended.
-/

namespace DeviceFlow

/-- The holders of devices, and the records of runs that have ended. -/
structure Registry where
  /-- The number of the task that holds a device. -/
  holders : Dict String Nat
  /-- The record of the last run on a device that has ended. -/
  records : Dict String RunRecord
  deriving DecidableEq

namespace Registry

/-- A registry of devices that nobody has used. -/
def empty : Registry := ⟨Dict.empty, Dict.empty⟩

instance : Inhabited Registry := ⟨empty⟩

variable (r : Registry)

/-- The task that holds a device. -/
def holder? (device : String) : Option Nat := r.holders.get? device

/-- Whether a device is held. -/
def isRunning (device : String) : Bool := r.holders.contains device

/-- The record of the last run on a device that has ended. -/
def lastRecord? (device : String) : Option RunRecord := r.records.get? device

/-- Gives a device to a task, unless another one holds it. -/
def claim (device : String) (task : Nat) : Except RunError Registry :=
  if r.isRunning device then .error (.alreadyRunning device)
  else .ok { r with holders := r.holders.insert device task }

/-- Frees a device, and keeps the record of the run that has ended if there is one. -/
def release (device : String) (record : Option RunRecord) : Registry :=
  ⟨r.holders.erase device,
    match record with
    | some record => r.records.insert device record
    | none => r.records⟩

/-- The record of a run that has not ended by itself: nothing is known of what it did. -/
def abnormalRecord (w : Workflow) (startedAt finishedAt : Timestamp) (durationMs : Nat) :
    RunRecord where
  workflowId := w.id
  workflowName := w.name
  status := .error
  startedAt := startedAt
  finishedAt := finishedAt
  durationMs := durationMs
  steps := 0
  error := some "run task panicked or was aborted"
  vars := Dict.empty

/-- What is reported when a run is admitted. -/
def admissionLog (w : Workflow) (device : String) : List LogRecord :=
  [.info .registry s!"Admitted workflow '{w.id}' on device {device}"]

/-- What is reported when the holder of a device is told to stop. -/
def stoppingLog (device : String) : List LogRecord :=
  [.debug .registry s!"Cancelling run on device {device}"]

/-- What is reported when a run has not ended by itself. -/
def abnormalLog (w : Workflow) (device : String) : List LogRecord :=
  [.error .registry s!"Run of '{w.id}' on device {device} ended abnormally"]

/-- A device can be claimed exactly when nobody holds it. -/
theorem claim_eq_ok_iff (device : String) (task : Nat) (r' : Registry) :
    r.claim device task = .ok r' ↔
      r.isRunning device = false ∧ r' = { r with holders := r.holders.insert device task } := by
  unfold claim
  cases r.isRunning device <;> simp [eq_comm]

@[simp] theorem holder?_release (device other : String) (record : Option RunRecord) :
    (r.release device record).holder? other = if device = other then none else r.holder? other :=
  Dict.get?_erase ..

end Registry

end DeviceFlow
