/-!
# Fixed texts

What the program says about itself.
-/

namespace DeviceFlow.CommandLine

/-- The name of the program. -/
def programName : String := "TapFlow"

/-- The version of the program. -/
def programVersion : String := "0.1.0"

/-- The device that is used when none is named. -/
def defaultDevice : String := "emulator-5554"

/-- Lines of text, each with its end. -/
def unlines (lines : List String) : String :=
  String.join (lines.map (· ++ "\n"))

/-- What is said about the version. -/
def versionText : String := unlines [s!"{programName} {programVersion}"]

/-- What is said before a run. -/
def banner : String :=
  unlines ["", s!"{programName} v{programVersion}", "Device Workflow Automation Engine", ""]

/-- How the program is used. -/
def usage : String :=
  unlines
    ["Usage: tapflow [OPTIONS] <WORKFLOW_FILE>",
      "",
      "Arguments:",
      "  <WORKFLOW_FILE>     Path to workflow YAML or JSON file",
      "",
      "Options:",
      s!"  --device SERIAL     Target device (default: $ANDROID_SERIAL or {defaultDevice})",
      "  --dry-run           Log device actions without performing them",
      "  --config PATH       Engine configuration YAML",
      "  --workflows DIR     Directory of sub-workflows (default: workflow's directory)",
      "  --snapshot PATH     UI tree (YAML/JSON) used for branch and read steps",
      "  --var NAME=VALUE    Set a variable (repeatable)",
      "  --adb PATH          Path to the adb binary",
      "  --timeline          Print a step timeline after the run",
      "  --verbose           Enable debug logging",
      "  --help              Show this help message",
      "  --version           Show version information",
      "",
      "Examples:",
      "  tapflow login.yaml",
      "  tapflow login.yaml --device emulator-5554 --var user=alice",
      "  tapflow checkout.yaml --dry-run --timeline"]

end DeviceFlow.CommandLine
