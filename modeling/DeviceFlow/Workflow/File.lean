import DeviceFlow.Files.FileSystem
import DeviceFlow.Workflow.Text
import DeviceFlow.Workflow.Validation

/-!
# Workflows in files

A workflow is loaded from a file for a run, so it has to be well-formed; it is saved as it is.
-/

namespace DeviceFlow

/-- Why a workflow cannot be loaded from a file. -/
inductive LoadError where
  | unreadable (path : String) (cause : Files.FileError)
  | noWorkflow (format : Document.Format)
  | invalid (cause : ValidationError)
  deriving DecidableEq, Repr

/-- The text of an error. -/
def LoadError.message : LoadError → String
  | .unreadable path cause =>
    s!"Failed to read workflow file '{path}': {cause.message}. " ++
      "Check that the file exists and is readable."
  | .noWorkflow format => Workflow.parseFailure format
  | .invalid cause => cause.message

namespace Workflow

/-- Reads the workflow in a file, which need not be well-formed. -/
def readFile (fs : FileSystem) (path : String) : Except LoadError Workflow :=
  match fs.read path with
  | .error e => .error (.unreadable path e)
  | .ok text =>
    match ofText? (formatOf path) text with
    | none => .error (.noWorkflow (formatOf path))
    | some w => .ok w

/-- Loads the well-formed workflow in a file. -/
def loadFile (fs : FileSystem) (path : String) : Except LoadError Workflow := do
  let w ← readFile fs path
  match w.validate with
  | .ok () => return w
  | .error e => throw (.invalid e)

/-- What is reported about loading a file. -/
def loadLog (fs : FileSystem) (path : String) : List LogRecord :=
  .info .workflowFile s!"Loading workflow from: {path}" ::
  match fs.read path with
  | .error _ => []
  | .ok text =>
    .debug .workflowFile s!"Workflow content loaded ({text.utf8ByteSize} bytes)" ::
    match ofText? (formatOf path) text with
    | none => []
    | some w =>
      .info .workflowFile s!"Parsed workflow '{w.id}' with {w.steps.length} steps" ::
        w.validationLog

/-- Saves a workflow in a file, in the format that the path tells. -/
def saveFile (fs : FileSystem) (path : String) (w : Workflow) :
    Except Files.FileError FileSystem :=
  fs.write path (.text (w.toText (formatOf path)))

/-- What is reported about a file that has been saved. -/
def saveLog (path : String) : List LogRecord := [.info .workflowFile s!"Workflow saved to: {path}"]

end Workflow

end DeviceFlow
