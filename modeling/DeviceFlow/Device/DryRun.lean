import DeviceFlow.Device.Basic
import DeviceFlow.Log
import DeviceFlow.Text.Digits

/-!
# Dry runs

In a dry run nothing is done to a device: every action is reported to the log and succeeds
without an output.
-/

namespace DeviceFlow

/-- What is reported of a call. -/
def DeviceCall.dryRunText (serial : String) : DeviceCall → String
  | .shell command => s!"{serial} shell: {command}"
  | .tap x y => s!"{serial} tap ({x.toInt}, {y.toInt})"
  | .swipe x1 y1 x2 y2 ms =>
    s!"{serial} swipe ({x1.toInt}, {y1.toInt}) -> ({x2.toInt}, {y2.toInt}) over " ++
      Text.durationText ms
  | .keyEvent code => s!"{serial} key event {code.toInt}"
  | .app action package => s!"{serial} app {action.label} {package}"
  | .element selector action ms =>
    s!"{serial} element {action.name} on {selector.text} (timeout {Text.durationText ms})"

/-- The line of the log for an action that is not done. -/
def dryRunRecord (text : String) : LogRecord := .info .dryRun ("[DRY RUN] " ++ text)

/-- The line of the log for a call. -/
def DeviceCall.dryRunRecord (serial : String) (call : DeviceCall) : LogRecord :=
  DeviceFlow.dryRunRecord (call.dryRunText serial)

/-- The line of the log for a script. -/
def scriptDryRunRecord (serial name : String) : LogRecord :=
  dryRunRecord s!"{serial} play script '{name}'"

end DeviceFlow
