import DeviceFlow.Document.Json.Reader
import DeviceFlow.Document.Json.Writer
import DeviceFlow.Document.Yaml.Reader
import DeviceFlow.Document.Yaml.Writer
import DeviceFlow.Files.Path
import DeviceFlow.Workflow.Decode
import DeviceFlow.Workflow.Encode

/-!
# Workflows as text

Workflows are written and read in two formats. The extension of a file decides between them,
whatever its case.
-/

namespace DeviceFlow

open Document (Format Value)

/-- Reads a document. -/
def Document.ofText? (format : Format) (text : String) : Option Document :=
  match format with
  | .json => Document.Json.read? text
  | .yaml => Document.Yaml.read? text

/-- Writes a document. -/
def Document.toText (format : Format) (value : Value) : String :=
  match format with
  | .json => Document.Json.write value
  | .yaml => Document.Yaml.write value

/-- The format of the workflow in a file. -/
def Workflow.formatOf (path : String) : Format :=
  if (Files.extension? path).map Files.lowered = some "json" then .json else .yaml

/-- The name of a format. -/
def Document.Format.name : Format → String
  | .json => "JSON"
  | .yaml => "YAML"

namespace Workflow

/-- Reads a workflow, without checking whether it is well-formed. -/
def ofText? (format : Format) (text : String) : Option Workflow :=
  (Document.ofText? format text).bind ofDocument?

/-- Writes a workflow. -/
def toText (format : Format) (w : Workflow) : String :=
  Document.toText format w.encode

/-- What is said about a text that is no workflow. -/
def parseFailure (format : Format) : String :=
  s!"Failed to parse workflow {format.name}: .... Check the file format."

end Workflow

end DeviceFlow
