import DeviceFlow.Device.Basic
import DeviceFlow.Files.FileSystem
import DeviceFlow.Log
import DeviceFlow.Text.Blank

/-!
# Devices behind adb

A device is driven by commands to its shell, which the program adb passes on. Elements of the
screen cannot be reached that way.
-/

namespace DeviceFlow.Adb

/-- The command that does something with an app. -/
def appCommand (action : AppAction) (package : String) : String :=
  match action with
  | .launch => s!"monkey -p {package} -c android.intent.category.LAUNCHER 1"
  | .stop => s!"am force-stop {package}"
  | .clear => s!"pm clear {package}"
  | .openSettings =>
    s!"am start -a android.settings.APPLICATION_DETAILS_SETTINGS -d package:{package}"

/-- The command for a call, if there is one. -/
def command? : DeviceCall → Option String
  | .shell command => some command
  | .tap x y => some s!"input tap {x.toInt} {y.toInt}"
  | .swipe x1 y1 x2 y2 ms =>
    some s!"input swipe {x1.toInt} {y1.toInt} {x2.toInt} {y2.toInt} {ms}"
  | .keyEvent code => some s!"input keyevent {code.toInt}"
  | .app action package => some (appCommand action package)
  | .element .. => none

/-- The arguments of the program for a command. -/
def arguments (serial command : String) : List String := ["-s", serial, "shell", command]

/-- Why a program cannot be run. -/
inductive LaunchError where
  | file (cause : Files.FileError)
  | notPermitted
  | noProgram
  | zeroInArgument
  deriving DecidableEq, Repr

/-- The text of an error. -/
def LaunchError.message : LaunchError → String
  | .file cause => cause.message
  | .notPermitted => "Permission denied (os error 13)"
  | .noProgram => "Exec format error (os error 8)"
  | .zeroInArgument => "nul byte found in provided data"

/-- How a program has ended and what it has printed, as texts. -/
structure Completed where
  /-- None when the program was killed. -/
  exitCode : Option Int32
  output : String
  errors : String
  deriving DecidableEq, Repr

/-- The error of a call that has no command. -/
def unreachable (action : ElementAction) : DeviceError :=
  .unsupported s!"element {action.name} is not available over plain adb"

/-- The result of a command. -/
def result (program : String) (ended : Except LaunchError Completed) :
    Except DeviceError String :=
  match ended with
  | .error e => .error (.io s!"{program}: {e.message}")
  | .ok c =>
    if c.exitCode = some 0 then .ok c.output
    else .error (.commandFailed c.exitCode (Text.trimmed c.errors))

/-- What is reported about a command before it is run. -/
def commandLog (serial command : String) : List LogRecord :=
  [.debug .adb s!"[{serial}] adb shell {command}"]

/-- What is reported about a command that has been run. -/
def resultLog (serial command : String) (ended : Except LaunchError Completed) :
    List LogRecord :=
  match ended with
  | .error _ => []
  | .ok c =>
    if c.exitCode = some 0 then []
    else
      .error .adb (s!"[{serial}] '{command}' failed with exit code: " ++
        DeviceError.codeText c.exitCode) ::
      if Text.isBlankText c.output then [] else [.debug .adb s!"stdout:\n{c.output}"]

/-- What is reported about a call that has no command. -/
def unreachableLog (serial : String) (selector : Selector) (action : ElementAction) :
    List LogRecord :=
  [.warn .adb
    s!"[{serial}] element {action.name} on {selector.text} requires a UI automation backend"]

/-- The program in a development kit. -/
def kitProgram (home : String) : String :=
  Files.join (Files.join home "platform-tools") "adb"

/-- The program that is run when none is given: the one of the development kit if it exists,
    else the one that the system finds. -/
def defaultProgram (fs : FileSystem) (home : Option String) : String :=
  match home with
  | some home => if fs.contains (kitProgram home) then kitProgram home else "adb"
  | none => "adb"

/-- What is reported about the choice of the program. -/
def defaultProgramLog (fs : FileSystem) (home : Option String) : List LogRecord :=
  match home with
  | some home =>
    if fs.contains (kitProgram home) then [.debug .adb s!"Using SDK adb: {kitProgram home}"] else []
  | none => []

end DeviceFlow.Adb
