import DeviceFlow.Device.DryRun
import DeviceFlow.Manager.Registry
import DeviceFlow.Rehearsal.Cast
import DeviceFlow.Watch.Listener

/-!
# The scene of a rehearsal

What has happened so far, and what the cast answers to each request. An answer may be there at
once, or take its time, or be a pause that a cancellation cuts short.
-/

namespace DeviceFlow.Rehearsal

/-- What has happened so far. Lists have the latest first. -/
structure Scene where
  /-- The time since the beginning. -/
  nowMs : Nat
  /-- Whether the run has been cancelled. -/
  cancelled : Bool
  /-- The time at which the run will be cancelled. -/
  cancelAtMs : Option Nat
  files : FileSystem
  /-- What has been asked for each device, of itself or of its helpers, and when. -/
  asked : Dict String (List (Nat × Request))
  /-- The calls of each device. -/
  calls : Dict String (List String)
  /-- The number of shell commands of each device that have succeeded. -/
  shells : Dict String Nat
  /-- The scripts that were played on each device. -/
  plays : Dict String (List String)
  /-- How often a screen was looked at. -/
  looks : Nat
  /-- The events and the times at which they were told. -/
  events : List (Nat × Event)
  log : List LogRecord

/-- No wait lasts longer than thirty years of 365 days. -/
def longestWaitMs : Nat := 30 * 365 * 24 * 60 * 60 * 1000

/-- The date at the beginning. -/
def openingDate : Timestamp := ⟨2024, 1, 1, 0, 0, 0, 0⟩

namespace Scene

/-- A scene in which nothing has happened. -/
def opening (files : FileSystem) : Scene :=
  ⟨0, false, none, files, Dict.empty, Dict.empty, Dict.empty, Dict.empty, 0, [], []⟩

variable (scene : Scene)

/-- The date now. -/
def date : Timestamp := openingDate.addMillis scene.nowMs

/-- Keeps lines of the log. -/
def keep (records : List LogRecord) : Scene :=
  { scene with log := records.reverse ++ scene.log }

/-- Plans a cancellation after some time. -/
def cancelAfter (ms : Nat) : Scene :=
  { scene with cancelAtMs := some (scene.nowMs + min ms longestWaitMs) }

/-- Lets time pass that nothing can cut short. Who waits goes on before a cancellation that is
    planned for the same time. -/
def pass (ms : Nat) : Scene :=
  let nowMs := scene.nowMs + ms
  { scene with
    nowMs := nowMs
    cancelled := scene.cancelled || scene.cancelAtMs.any (· < nowMs) }

/-- Lets time pass until a cancellation. -/
def pause (ms : Nat) : Scene × Bool :=
  if scene.cancelled then (scene, false)
  else if ms = 0 then (scene, true)
  else
    match scene.cancelAtMs with
    | some time =>
      if time < scene.nowMs + ms then
        ({ scene with nowMs := max scene.nowMs time, cancelled := true }, false)
      else (scene.pass ms, true)
    | none => (scene.pass ms, true)

/-- What has been asked for a device, and when; the latest comes first. -/
def askedFor (serial : String) : List (Nat × Request) := scene.asked.getD serial []

/-- Remembers what is asked for a device now. -/
def hear (serial : String) (q : Request) : Scene :=
  { scene with asked := scene.asked.insert serial ((scene.nowMs, q) :: scene.askedFor serial) }

/-- The calls of a device, the first one first. -/
def callsOf (serial : String) : List String := (scene.calls.getD serial []).reverse

/-- The scripts played on a device, the first one first. -/
def playsOf (serial : String) : List String := (scene.plays.getD serial []).reverse

/-- The timeline of everything that was told. -/
def timeline : Timeline := Timeline.ofEvents 0 scene.events.reverse

end Scene

/-- How a request is answered. -/
inductive Turn (α : Type) where
  /-- At once. -/
  | now (answer : α)
  /-- After some time that nothing can cut short. -/
  | later (ms : Nat) (finish : Scene → Scene × α)
  /-- After a pause, according to whether it has not been cut short. -/
  | pause (ms : Nat) (finish : Bool → α)

namespace Cast

variable (cast : Cast)

/-- What is reported when the run on a device is interrupted from outside. -/
def interruptionLog (device : String) : List LogRecord :=
  .warn .session "Interrupted - stopping workflow" :: Registry.stoppingLog device

/-- The result of a call that a scripted device has taken its time for. -/
def finishCall (part : DevicePart) (serial : String) (number : Nat) (call : DeviceCall)
    (scene : Scene) : Scene × Except DeviceError String :=
  match part.mishaps.at? number with
  | some e => (scene, .error e)
  | none =>
    match call with
    | .shell _ =>
      let count := scene.shells.getD serial 0
      let output :=
        match part.outputs with
        | [] => ""
        | first :: rest => remaining count first rest
      ({ scene with shells := scene.shells.insert serial (count + 1) }, .ok output)
    | _ => (scene, .ok "")

/-- A turn that takes some time, or none. -/
def timed {α : Type} (ms : Nat) (scene : Scene) (finish : Scene → Scene × α) :
    Scene × Turn α :=
  if ms = 0 then
    let (scene, answer) := finish scene
    (scene, .now answer)
  else (scene, .later (min ms longestWaitMs) finish)

/-- A helper answers what a device asks last. -/
def beginHabit {α : Type} (habit : Habit α) (serial : String) (scene : Scene) :
    Scene × Turn (Except DeviceError α) :=
  let (ms, answer) := habit serial (scene.askedFor serial)
  timed ms scene fun scene => (scene, answer)

/-- A script stands in for the program that a command is passed to. An interruption of it
    stops the run on the device. -/
def runStandIn (serial command : String) (standIn : Except Adb.LaunchError Script)
    (scene : Scene) : Scene × Except Adb.LaunchError Adb.Completed :=
  match standIn with
  | .error e => (scene, .error e)
  | .ok script =>
    let (completed, interrupts) := script.run (Adb.arguments serial command)
    (if interrupts then { scene.keep (interruptionLog serial) with cancelled := true } else scene,
      .ok completed)

/-- What happens to a call that is passed to a program. -/
def callProgram (serial program : String) (standIn : Except Adb.LaunchError Script)
    (call : DeviceCall) (scene : Scene) : Scene × Except DeviceError String :=
  match call, Adb.command? call with
  | .element selector action _, _ =>
    (scene.keep (Adb.unreachableLog serial selector action), .error (Adb.unreachable action))
  | _, none => (scene, .ok "")
  | _, some command =>
    let (scene, ended) :=
      runStandIn serial command standIn (scene.keep (Adb.commandLog serial command))
    (scene.keep (Adb.resultLog serial command ended), Adb.result program ended)

/-- What happens to a call. -/
def beginCall (serial : String) (call : DeviceCall) (scene : Scene) :
    Scene × Turn (Except DeviceError String) :=
  match cast.device with
  | .dryRun => (scene.keep [call.dryRunRecord serial], .now (.ok ""))
  | .adb program standIn =>
    let (scene, result) := callProgram serial program standIn call scene
    (scene, .now result)
  | .acting habit => beginHabit habit serial scene
  | .scripted part =>
    let calls := callText call :: scene.calls.getD serial []
    let number := calls.length
    let scene := { scene with
      calls := scene.calls.insert serial calls
      cancelled := scene.cancelled || part.cancelOnCall = some number }
    timed part.delayMs scene (finishCall part serial number call)

/-- What happens when a script is to be played. -/
def beginPlay (serial name : String) (scene : Scene) :
    Scene × Turn (Except DeviceError Unit) :=
  match cast.player with
  | .absent => (scene, .now (.ok ()))
  | .dryRun => (scene.keep [scriptDryRunRecord serial name], .now (.ok ()))
  | .acting habit => beginHabit habit serial scene
  | .scripted mishaps delayMs =>
    let plays := s!"play {name}" :: scene.plays.getD serial []
    let scene := { scene with plays := scene.plays.insert serial plays }
    timed delayMs scene fun scene =>
      match mishaps.at? plays.length with
      | some e => (scene, .error e)
      | none => (scene, .ok ())

/-- What happens when the screen is looked at. -/
def beginLook (serial : String) (scene : Scene) : Scene × Turn (Except DeviceError Screen) :=
  match cast.screen with
  | .absent => (scene, .now (.ok ⟨[]⟩))
  | .still screen => (scene, .now (.ok screen))
  | .changing first rest =>
    ({ scene with looks := scene.looks + 1 }, .now (remaining scene.looks first rest))
  | .acting habit => beginHabit habit serial scene

/-- What happens when a workflow is to be loaded. -/
def beginLoad (id : String) (scene : Scene) :
    Scene × Turn (Except String (Option Workflow)) :=
  match cast.store with
  | .absent => (scene, .now (.ok none))
  | .memory store => (scene, .now (.ok (store.load id)))
  | .directory store =>
    let found := match store.load scene.files id with
      | .ok w => .ok w
      | .error e => .error e.message
    (scene.keep (store.loadLog scene.files id), .now found)
  | .serving answers => timed (answers id).1 scene fun scene => (scene, (answers id).2)

/-- Tells an event. -/
def tell (e : Event) (scene : Scene) : Scene :=
  let scene := { scene with events := (scene.nowMs, e) :: scene.events }
  if cast.logsEvents then scene.keep [e.logRecord] else scene

/-- What happens to a request of a run on a device. -/
def begin (serial : String) (isCancelled : Scene → Bool) (q : Request) (scene : Scene) :
    Scene × Turn q.Answer :=
  match q with
  | .log record => (scene.keep [record], .now ())
  | .emit e => (cast.tell e scene, .now ())
  | .clock => (scene, .now scene.nowMs)
  | .date => (scene, .now scene.date)
  | .isCancelled => (scene, .now (isCancelled scene))
  | .sleep ms => (scene, .pause (min ms longestWaitMs) id)
  | .perform call => cast.beginCall serial call (scene.hear serial q)
  | .play name => cast.beginPlay serial name (scene.hear serial q)
  | .look => cast.beginLook serial (scene.hear serial q)
  | .load id => cast.beginLoad id scene

/-- Answers a request, waiting as long as it takes. -/
def answer (serial : String) (q : Request) (scene : Scene) : Scene × q.Answer :=
  match cast.begin serial (·.cancelled) q scene with
  | (scene, .now a) => (scene, a)
  | (scene, .later ms finish) => finish (scene.pass ms)
  | (scene, .pause ms finish) =>
    let (scene, whole) := scene.pause ms
    (scene, finish whole)

/-- Carries out a plan on a device. -/
def carryOut {α : Type} (serial : String) : Plan α → Scene → Scene × α
  | .done a, scene => (scene, a)
  | .ask q next, scene =>
    let (scene, a) := cast.answer serial q scene
    carryOut serial (next a) scene

end Cast

end DeviceFlow.Rehearsal
