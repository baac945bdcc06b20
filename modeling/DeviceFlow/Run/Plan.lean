import DeviceFlow.Device.Basic
import DeviceFlow.Log
import DeviceFlow.Run.Event
import DeviceFlow.Screen.Basic
import DeviceFlow.Workflow.Basic

/-!
# Plans

What a run does is a tree of requests to its surroundings: at each node one request, and a
branch for every answer. Nothing is known here of devices, clocks or files; whoever carries a
plan out gives the answers. As a plan is a tree without infinite paths, a run comes to its end
whatever the answers are, provided that each request is answered.
-/

namespace DeviceFlow

/-- What a run asks of its surroundings. -/
inductive Request where
  /-- Keep a line of the log. -/
  | log (record : LogRecord)
  /-- Tell an event to whoever listens. -/
  | emit (event : Event)
  /-- The time in milliseconds since some fixed moment. -/
  | clock
  /-- The date. -/
  | date
  /-- Whether the run has been cancelled. -/
  | isCancelled
  /-- Let some time pass. -/
  | sleep (ms : Nat)
  /-- Have the device do something. -/
  | perform (call : DeviceCall)
  /-- Replay a recorded script on the device. -/
  | play (script : String)
  /-- Look at the screen of the device. -/
  | look
  /-- Load a stored workflow. -/
  | load (id : String)

/-- What a request is answered with. A sleep is answered by whether it has not been cut short
    by a cancellation; one that begins after the cancellation is cut short at once. -/
def Request.Answer : Request → Type
  | .log _ | .emit _ => Unit
  | .clock => Nat
  | .date => Timestamp
  | .isCancelled | .sleep _ => Bool
  | .perform _ => Except DeviceError String
  | .play _ => Except DeviceError Unit
  | .look => Except DeviceError Screen
  | .load _ => Except String (Option Workflow)

/-- A tree of requests with a result at the end of every path. -/
inductive Plan (α : Type) where
  | done (result : α)
  | ask (request : Request) (next : request.Answer → Plan α)

namespace Plan

variable {α β : Type}

/-- Goes on with another plan after the end. -/
def bind : Plan α → (α → Plan β) → Plan β
  | done a, f => f a
  | ask q next, f => ask q fun answer => bind (next answer) f

instance : Monad Plan where
  pure := done
  bind := bind

/-- The plan of a single request. -/
def request (q : Request) : Plan q.Answer := ask q done

/-- Keeps a line of the log. -/
def log (record : LogRecord) : Plan Unit := request (.log record)

/-- Tells an event. -/
def emit (event : Event) : Plan Unit := request (.emit event)

/-- Reads the clock, in milliseconds. -/
def clock : Plan Nat := request .clock

/-- Reads the date. -/
def date : Plan Timestamp := request .date

/-- Whether the run has been cancelled. -/
def isCancelled : Plan Bool := request .isCancelled

/-- Lets some time pass; whether it has passed without a cancellation. -/
def sleep (ms : Nat) : Plan Bool := request (.sleep ms)

end Plan

end DeviceFlow
