import DeviceFlow.Log
import DeviceFlow.Watch.Timeline

/-!
# Listeners

Who may listen to events. A listener cannot hold up a run: one that has nobody to hand an
event to drops it.
-/

namespace DeviceFlow

/-- A listener. -/
inductive Listener where
  /-- Drops everything. -/
  | nobody
  /-- Writes events to the log. -/
  | log
  /-- Keeps events on a timeline. -/
  | timeline
  /-- Hands events to a receiver, as long as there is one. -/
  | channel (hasReceiver : Bool)
  deriving DecidableEq, Repr

/-- The line of the log for an event. -/
def Event.logRecord : Event → LogRecord
  | .runStarted device _ workflowName _ =>
    .info .event s!"[{device}] Starting workflow '{workflowName}'"
  | .stepStarted i => .debug .event s!"Step '{i.stepId}' ({i.stepType}) iteration {i.number}"
  | .stepEnded i true durationMs _ =>
    .info .event s!"Step '{i.stepId}' completed in {durationMs} ms"
  | .stepEnded i false _ error =>
    .warn .event (s!"Step '{i.stepId}' failed: " ++ error.getD "no details")
  | .runCompleted device _ status steps durationMs =>
    .info .event s!"[{device}] Workflow {status.name} after {steps} steps ({durationMs} ms)"
  | .runFailed device _ error _ _ => .warn .event s!"[{device}] Workflow failed: {error}"

/-- What listeners have made of the events. -/
structure Hearing where
  log : List LogRecord
  timeline : Timeline
  /-- What the receivers of channels have received. -/
  received : List Event

/-- One listener hears an event. -/
def Listener.hear (nowMs : Nat) (e : Event) (h : Hearing) : Listener → Hearing
  | .nobody | .channel false => h
  | .log => { h with log := h.log ++ [e.logRecord] }
  | .timeline => { h with timeline := h.timeline.hear nowMs e }
  | .channel true => { h with received := h.received ++ [e] }

/-- Several listeners hear an event, one after the other. -/
def hearAll (listeners : List Listener) (nowMs : Nat) (e : Event) (h : Hearing) : Hearing :=
  listeners.foldl (Listener.hear nowMs e) h

end DeviceFlow
