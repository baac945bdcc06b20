import DeviceFlow.CommandLine.Session

/-!
# The program

Reads the files and the environment, and carries a session out as time passes. Other programs
cannot be started from here, so that only dry runs reach their end.
-/

namespace DeviceFlow.CommandLine

open Rehearsal (Cast Scene)

/-- What stands in a file. -/
def contentOfBytes (bytes : ByteArray) : Files.Content :=
  match String.fromUTF8? bytes with
  | some text => .text text
  | none => .bytes

/-- Adds what stands at a path, if anything does. -/
def addPath (fs : FileSystem) (path : String) : IO FileSystem := do
  try
    if ← (← IO.FS.realPath path).isDir then
      return (fs.makeDirectory path).toOption.getD fs
    return fs.addFile path (contentOfBytes (← IO.FS.readBinFile path))
  catch _ => return fs

/-- Adds a directory with the files right in it. -/
def addDirectory (fs : FileSystem) (path : String) : IO FileSystem := do
  try
    let entries ← (← IO.FS.realPath path).readDir
    let names := entries.toList.map (·.fileName)
    (Files.join path <$> names).foldlM addPath ((fs.makeDirectory path).toOption.getD fs)
  catch _ => return fs

/-- The variables of the environment that matter. -/
def environmentNames : List String :=
  ["ANDROID_HOME", "ANDROID_SERIAL", "CLICOLOR_FORCE", "PATH", "RUST_LOG"]

/-- What the program finds, as far as the options need it. -/
def World.find (o : Options) : IO World := do
  let values ← environmentNames.mapM fun name => return (name, ← IO.getEnv name)
  let environment := values.filterMap fun (name, value) => value.map (name, ·)
  let kit := (environment.lookup "ANDROID_HOME").map Adb.kitProgram
  let paths := o.workflow :: (o.config.toList ++ o.snapshot.toList ++ o.adb.toList ++ kit.toList)
  let files ← paths.foldlM addPath (← addDirectory FileSystem.empty o.directory)
  return ⟨files, Dict.ofList environment, Dict.empty⟩

/-- Writes what has been said since some of it was written. -/
def flush (filter : LogFilter) (t : Transcript) : IO Unit := do
  IO.print t.output
  IO.eprint (t.noteText filter)

/-- Writes the latest lines of a scene's log, and leaves none. -/
def flushScene (filter : LogFilter) (scene : Scene) : IO Scene := do
  flush filter ⟨"", scene.log.reverse.map .record⟩
  return { scene with log := [] }

/-- Lets time pass. -/
def wait (ms : Nat) (scene : Scene) : IO Scene := do
  IO.sleep (UInt32.ofNat ms)
  return scene.pass ms

/-- Carries a plan out, writes its log, and waits whenever it does. -/
def perform {α : Type} (filter : LogFilter) (cast : Cast) (device : String) :
    Plan α → Scene → IO (Scene × α)
  | .done a, scene => return (← flushScene filter scene, a)
  | .ask q next, scene => do
    let (scene, turn) := cast.begin device (·.cancelled) q scene
    let scene ← flushScene filter scene
    match turn with
    | .now a => perform filter cast device (next a) scene
    | .later ms finish =>
      let (scene, a) := finish (← wait ms scene)
      perform filter cast device (next a) scene
    | .pause ms finish => perform filter cast device (next (finish true)) (← wait ms scene)

/-- Writes a part of a session; its result, if it has not ended the program. -/
def performDialogue {α : Type} (filter : LogFilter) (d : Dialogue α) : IO (Option α) := do
  let (result, transcript) := d.run Transcript.empty
  flush filter transcript
  match result with
  | .ok a => return some a
  | .error message =>
    IO.eprint (failureText message)
    return none

/-- Runs a workflow; the exit code. -/
def runSession (o : Options) : IO Nat := do
  let w ← World.find o
  let (filter, warnings) := logFilter w o
  IO.eprint (unlines warnings)
  match ← performDialogue filter (prepare w o) with
  | none => return 1
  | some opening =>
    let (scene, record) ←
      perform filter opening.cast opening.device (opening.plan o) (Scene.opening w.files)
    match ← performDialogue filter (conclude w o scene record) with
    | none => return 1
    | some status => return exitCode status

/-- Does what the words of the command line say; the exit code. -/
def start (words : List String) : IO UInt32 := do
  match Command.ofWords words with
  | .ok (.run o) => return UInt32.ofNat (← runSession o)
  | _ =>
    let r := reply default words
    IO.print r.output
    IO.eprint r.notes
    return UInt32.ofNat r.code

end DeviceFlow.CommandLine

/-- Runs the workflow that the command line names. -/
def main (words : List String) : IO UInt32 :=
  DeviceFlow.CommandLine.start words
