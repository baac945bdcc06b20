import DeviceFlow.Files.FileSystem
import DeviceFlow.Rehearsal.Script

/-!
# What the program finds

When it is started, the program finds files, the variables of its environment, and other
programs that it may start.
-/

namespace DeviceFlow.CommandLine

open Files (Place)
open Rehearsal (Script)

/-- What the program finds when it is started. -/
structure World where
  files : FileSystem
  environment : Dict String String
  /-- The files that are programs, with the scripts that stand in for them. -/
  programs : Dict Place Script

namespace World

instance : Inhabited World := ⟨⟨FileSystem.empty, Dict.empty, Dict.empty⟩⟩

variable (w : World)

/-- Adds a file that is a program. -/
def addProgram (path : String) (script : Script) : World :=
  let files := w.files.addFile path (.text script.text)
  match files.locate path with
  | .ok place => { w with files := files, programs := w.programs.insert place script }
  | .error _ => { w with files := files }

/-- What comes of starting the program at a path. -/
def launchAt (path : String) : Except Adb.LaunchError Script :=
  match w.files.locate path with
  | .error e => .error (.file e)
  | .ok place =>
    match w.files.entry? place, w.programs.get? place with
    | none, _ => .error (.file .notFound)
    | some (.file _), some script =>
      if "#!".toList.isPrefixOf script.text.toList then .ok script else .error .noProgram
    | some _, _ => .error .notPermitted

/-- The directories in which programs are looked for. -/
def programDirectories : List String :=
  match w.environment.get? "PATH" with
  | some path => (path.toList.splitOn ':').map String.ofList
  | none => ["/bin", "/usr/bin"]

/-- Looks for a program in directories. A program that may not be started is passed over, but
    not forgotten. -/
def launchFrom (name : String) (denied : Bool) : List String → Except Adb.LaunchError Script
  | [] => .error (if denied then .notPermitted else .file .notFound)
  | directory :: rest =>
    match w.launchAt (Files.join directory name) with
    | .error .notPermitted => launchFrom name true rest
    | .error (.file _) => launchFrom name denied rest
    | r => r

/-- What comes of starting a program: one with a slash in its name stands at that path, any
    other is looked for. -/
def launch (name : String) : Except Adb.LaunchError Script :=
  if name.isEmpty then .error (.file .notFound)
  else if name.toList.contains '/' then w.launchAt name
  else w.launchFrom name false w.programDirectories

end World

end DeviceFlow.CommandLine
