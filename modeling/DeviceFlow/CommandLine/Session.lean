import DeviceFlow.CommandLine.Options
import DeviceFlow.CommandLine.Transcript
import DeviceFlow.CommandLine.Usage
import DeviceFlow.CommandLine.World
import DeviceFlow.Rehearsal.Scene
import DeviceFlow.Run.Walk
import DeviceFlow.Screen.File
import DeviceFlow.Settings.File
import DeviceFlow.Watch.Chart
import DeviceFlow.Workflow.File

/-!
# Sessions

What the program does from its start to its end: it reads the command line, gets everything
together that a run needs, carries the run out, and says how it has ended. The exit code tells
runs that came to their end from those that failed and those that were interrupted.
-/

namespace DeviceFlow.CommandLine

open Rehearsal (Cast Scene)

/-- A run that can begin. -/
structure Opening where
  cast : Cast
  device : String
  workflow : Workflow

variable (w : World) (o : Options)

/-- Loads the workflow. -/
def loadWorkflow : Dialogue Workflow := do
  Dialogue.report (Workflow.loadLog w.files o.workflow)
  match Workflow.loadFile w.files o.workflow with
  | .ok wf =>
    Dialogue.report [.info .session
      (s!"Workflow loaded: '{wf.name}' with {wf.steps.length} steps, " ++
        s!"{wf.calledIds.length} sub-workflows")]
    return wf
  | .error e =>
    Dialogue.report [.error .session s!"Failed to load workflow: {e.message}"]
    throw s!"Could not load workflow from '{o.workflow}': {e.message}"

/-- Loads the settings. -/
def loadSettings : Dialogue Settings :=
  match o.config with
  | none => return .default
  | some path => do
    Dialogue.report (Settings.loadLog w.files path)
    match Settings.loadFile w.files path with
    | .ok s => return s
    | .error e => throw e.message

/-- The device of the run: in a dry run none, else the one behind the chosen program. -/
def chooseDevice : Dialogue Rehearsal.DeviceRole :=
  if o.isDryRun then return .dryRun
  else do
    let home := w.environment.get? "ANDROID_HOME"
    let program ←
      match o.adb with
      | some program => pure program
      | none => do
        Dialogue.report (Adb.defaultProgramLog w.files home)
        pure (Adb.defaultProgram w.files home)
    Dialogue.report [.info .session s!"Using adb at {program}"]
    return .adb program (w.launch program)

/-- The directory of the workflows that are called: if none is named, that of the workflow. -/
def Options.directory : String :=
  match o.workflows with
  | some directory => directory
  | none => ((Files.parent? o.workflow).filter (!·.isEmpty)).getD "."

/-- Loads the screen. -/
def loadScreen : Dialogue Rehearsal.ScreenRole :=
  match o.snapshot with
  | none => return .absent
  | some path =>
    match Screen.loadFile w.files path with
    | .ok screen => return .still screen
    | .error e => throw s!"Could not load UI snapshot '{path}': {e.message}"

/-- Gets together what the run is carried out with. -/
def chooseCast : Dialogue Cast := do
  let settings ← loadSettings w o
  let device ← chooseDevice w o
  Dialogue.report [.info .session s!"Sub-workflows: {o.directory}"]
  let screen ← loadScreen w o
  return {
    settings := settings
    device := device
    player := if o.isDryRun then .dryRun else .absent
    screen := screen
    store := .directory (DirectoryStore.new o.directory)
    logsEvents := true
    breaksAtEndOf := none }

/-- The serial of the device. -/
def deviceSerial : String :=
  match o.device with
  | some serial => serial
  | none => (w.environment.get? "ANDROID_SERIAL").getD defaultDevice

/-- Says what is going to be done and gets everything together. -/
def prepare : Dialogue Opening := do
  Dialogue.write banner
  if o.isDryRun then
    Dialogue.report [.info .session "Mode: DRY RUN (device actions will not execute)"]
    Dialogue.say [""]
  let wf ← loadWorkflow w o
  let cast ← chooseCast w o
  let device := deviceSerial w o
  Dialogue.report (.info .session s!"Device: {device}" :: Registry.admissionLog wf device)
  return ⟨cast, device, wf⟩

/-- The run of an opening. -/
def Opening.plan (opening : Opening) : Plan RunRecord :=
  let run : Session := ⟨opening.cast.rig, opening.device⟩
  run.execute opening.workflow o.vars

/-- Whether words are coloured: only on demand, as the output is a text. -/
def isColoured : Bool :=
  (w.environment.get? "CLICOLOR_FORCE").any (· ≠ "0")

/-- A text in the colours of a code. What ends colours inside the text does not end these. -/
def colour (code text : String) : String :=
  let start := "\x1b[" ++ code ++ "m"
  let stop := "\x1b[0m"
  start ++ text.replace stop (stop ++ start) ++ stop

/-- A text in the colours of a code, or as it is. -/
def colourIf (isColoured : Bool) (code text : String) : String :=
  if isColoured then colour code text else text

/-- The colour of a status. -/
def statusColour : RunStatus → String
  | .completed => "1;32"
  | .cancelled => "1;33"
  | .error => "1;31"

/-- What is said about a run that has ended. -/
def summary (isColoured : Bool) (r : RunRecord) : List String :=
  let status := colourIf isColoured (statusColour r.status) r.status.name
  ["", s!"Workflow '{r.workflowName}': {status}",
    s!"Steps executed: {r.steps}", s!"Total execution time: {r.durationMs} ms"] ++
  r.error.toList.map (fun message => "Error: " ++ colourIf isColoured "31" message) ++ [""]

/-- Says how the run has ended. -/
def conclude (scene : Scene) (r : RunRecord) : Dialogue RunStatus := do
  Dialogue.say (summary (isColoured w) r)
  if o.showsTimeline then Dialogue.say [scene.timeline.chart scene.nowMs]
  return r.status

/-- A session with a rehearsed run. -/
def converse : Dialogue RunStatus := do
  let opening ← prepare w o
  let (scene, record) :=
    opening.cast.carryOut opening.device (opening.plan o) (Scene.opening w.files)
  Dialogue.report scene.log.reverse
  conclude w o scene record

/-- The exit code for a status. -/
def exitCode : RunStatus → Nat
  | .completed => 0
  | .cancelled => 130
  | .error => 1

/-- What the program leaves behind. -/
structure Reply where
  code : Nat
  output : String
  notes : String
  deriving DecidableEq, Repr

/-- The filter for the log, with warnings about it: the one in the environment, else the one
    that the options ask for. -/
def logFilter : LogFilter × List String :=
  LogFilter.read <|
    (w.environment.get? "RUST_LOG").getD (if o.isVerbose then "debug" else "info")

/-- The lines about an error that ends the program. -/
def failureText (message : String) : String := unlines ["", s!"Error: {message}"]

/-- What the program leaves behind when a command line is wrong. -/
def usageReply (e : UsageError) : Reply :=
  ⟨1, usage, unlines [s!"Error: {e.message}", ""] ++ failureText e.message⟩

/-- What a session leaves behind. -/
def sessionReply : Reply :=
  let (filter, warnings) := logFilter w o
  let (result, transcript) := (converse w o).run Transcript.empty
  let notes := unlines warnings ++ transcript.noteText filter
  match result with
  | .ok status => ⟨exitCode status, transcript.output, notes⟩
  | .error message => ⟨1, transcript.output, notes ++ failureText message⟩

/-- What the program leaves behind when it is started with some words. -/
def reply (words : List String) : Reply :=
  match Command.ofWords words with
  | .error e => usageReply e
  | .ok .help => ⟨0, usage, ""⟩
  | .ok .version => ⟨0, versionText, ""⟩
  | .ok (.run o) => sessionReply w o

end DeviceFlow.CommandLine
