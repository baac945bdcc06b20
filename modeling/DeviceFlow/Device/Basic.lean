import DeviceFlow.Workflow.Step

/-!
# Devices

What a run can ask of a device, and how a device can fail. A device is known by its serial; a
call either succeeds, possibly with an output, or fails with one error.
-/

namespace DeviceFlow

/-- Why a device, a script player or a snapshot provider fails. -/
inductive DeviceError where
  /-- A command ended badly; a command that was killed has no exit code. -/
  | commandFailed (code : Option Int32) (stderr : String)
  /-- A command could not be run at all. -/
  | io (text : String)
  | elementNotFound (selector : String)
  | timeout (ms : Nat)
  | unsupported (operation : String)
  | other (text : String)
  deriving DecidableEq, Repr

namespace DeviceError

/-- An exit code as it is shown in messages. -/
def codeText : Option Int32 → String
  | some code => s!"Some({code.toInt})"
  | none => "None"

/-- The text of an error. -/
def message : DeviceError → String
  | commandFailed code stderr => s!"command failed (exit code {codeText code}): {stderr}"
  | io text => s!"failed to run device command: {text}"
  | elementNotFound selector => s!"element not found: {selector}"
  | timeout ms => s!"timed out after {ms} ms"
  | unsupported operation => s!"unsupported operation: {operation}"
  | other text => text

end DeviceError

/-- What is to be done with an element, all parameters given. -/
inductive ElementAction where
  | click
  | longClick
  | inputText (text : String)
  | swipe (direction : Direction)
  | waitAppear
  | waitDisappear
  deriving DecidableEq, Repr

/-- The name of an action. -/
def ElementAction.name : ElementAction → String
  | .click => "click"
  | .longClick => "long_click"
  | .inputText _ => "input_text"
  | .swipe _ => "swipe"
  | .waitAppear => "wait_appear"
  | .waitDisappear => "wait_disappear"

/-- A call to a device. Durations are in milliseconds. -/
inductive DeviceCall where
  | shell (command : String)
  | tap (x y : Int32)
  | swipe (x1 y1 x2 y2 : Int32) (durationMs : Nat)
  | keyEvent (keyCode : Int32)
  | app (action : AppAction) (package : String)
  | element (selector : Selector) (action : ElementAction) (timeoutMs : Nat)
  deriving DecidableEq, Repr

end DeviceFlow
