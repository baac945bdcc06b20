import DeviceFlow.Files.FileSystem
import DeviceFlow.Log
import DeviceFlow.Settings.Basic

/-!
# Settings in files

The settings of runs are read from a file of their own.
-/

namespace DeviceFlow

/-- Why settings cannot be loaded from a file. -/
inductive SettingsError where
  | unreadable (path : String) (cause : Files.FileError)
  | noSettings
  deriving DecidableEq, Repr

/-- The text of an error. -/
def SettingsError.message : SettingsError → String
  | .unreadable path cause => s!"failed to read config '{path}': " ++ cause.message
  | .noSettings => "failed to parse config: ..."

namespace Settings

/-- Reads the settings of a text. -/
def parse (text : String) : Except SettingsError Settings :=
  match ofText? text with
  | some s => .ok s
  | none => .error .noSettings

/-- Loads the settings in a file. -/
def loadFile (fs : FileSystem) (path : String) : Except SettingsError Settings :=
  match fs.read path with
  | .error e => .error (.unreadable path e)
  | .ok text => parse text

/-- What is reported about loading a file. -/
def loadLog (fs : FileSystem) (path : String) : List LogRecord :=
  match loadFile fs path with
  | .ok _ => [.info .settings s!"Loaded engine config from {path}"]
  | .error _ => []

end Settings

end DeviceFlow
