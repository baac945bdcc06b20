import DeviceFlow.Files.FileSystem
import DeviceFlow.Workflow.Validation

/-!
# Stores of workflows

Workflows are kept by their ids. Only a well-formed workflow is saved, and saving stamps it:
with the time of the save, and with the time of the first save when it has none yet.
-/

namespace DeviceFlow

/-- Why a store cannot do what it is asked. -/
inductive StoreError where
  | io (path : String) (cause : Files.FileError)
  | parse (id text : String)
  | invalid (cause : ValidationError)
  deriving DecidableEq, Repr

/-- The text of an error. -/
def StoreError.message : StoreError → String
  | .io path cause => s!"I/O error on '{path}': " ++ cause.message
  | .parse id text => s!"failed to parse workflow '{id}': {text}"
  | .invalid cause => "invalid workflow: " ++ cause.message

namespace Workflow

/-- Takes over the time of creation of the workflow that is replaced, if there is one and no
    other time is given. -/
def inheritCreation (w : Workflow) (existing : Option Workflow) : Workflow :=
  { w with createdAt := w.createdAt.orElse fun _ => existing.bind (·.createdAt) }

/-- Stamps a workflow that is saved now. -/
def stamp (w : Workflow) (now : Timestamp) : Workflow :=
  { w with createdAt := some (w.createdAt.getD now), updatedAt := some now }

/-- Stamps a workflow if it is well-formed. -/
def stamped? (w : Workflow) (now : Timestamp) : Except StoreError Workflow :=
  match w.validate with
  | .ok () => .ok (w.stamp now)
  | .error e => .error (.invalid e)

end Workflow

end DeviceFlow
