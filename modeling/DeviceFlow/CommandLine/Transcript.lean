import DeviceFlow.CommandLine.LogFilter

/-!
# Transcripts

What the program says: an output, and notes beside it. Notes are plain lines, or lines of the
log, which may be filtered.
-/

namespace DeviceFlow.CommandLine

/-- A note beside the output. -/
inductive Note where
  | plain (text : String)
  | record (record : LogRecord)
  deriving DecidableEq, Repr

/-- What has been said. -/
structure Transcript where
  output : String
  notes : List Note
  deriving DecidableEq, Repr

/-- Nothing has been said. -/
def Transcript.empty : Transcript := ⟨"", []⟩

/-- A line of the log as it is shown. Only what is wrong or suspicious is marked. -/
def logLine (r : LogRecord) : String :=
  match r.level with
  | .error | .warn => s!"[{r.level.name}] {r.text}"
  | .info | .debug => r.text

/-- The notes that a filter lets pass, each a line. -/
def Transcript.noteText (t : Transcript) (f : LogFilter) : String :=
  String.join <| t.notes.map fun
    | .plain text => text ++ "\n"
    | .record r => if f.shows r then logLine r ++ "\n" else ""

/-- A part of what the program does, which may end with the text of an error. -/
abbrev Dialogue (α : Type) := ExceptT String (StateM Transcript) α

namespace Dialogue

/-- Writes a text to the output. -/
def write (text : String) : Dialogue Unit :=
  modify fun t => { t with output := t.output ++ text }

/-- Writes lines to the output. -/
def say (lines : List String) : Dialogue Unit :=
  write (String.join (lines.map (· ++ "\n")))

/-- Writes lines to the log. -/
def report (records : List LogRecord) : Dialogue Unit :=
  modify fun t => { t with notes := t.notes ++ records.map .record }

end Dialogue

end DeviceFlow.CommandLine
