import DeviceFlow.Rehearsal.Script
import DeviceFlow.Run.Plan
import DeviceFlow.Run.Rig
import DeviceFlow.Store.Directory
import DeviceFlow.Store.Memory

/-!
# The parts of a rehearsal

A run can be rehearsed with helpers that follow a script: how long their calls take, which of
them fail, what the device prints and what its screen shows. Time is not that of a clock on
the wall; it moves only while somebody waits.
-/

namespace DeviceFlow.Rehearsal

/-- The calls that fail. Calls are counted from one. -/
structure Mishaps where
  onCall : List (Nat × DeviceError)
  /-- The error of every other call. -/
  otherwise : Option DeviceError
  deriving DecidableEq, Repr

/-- No mishaps. -/
def Mishaps.none : Mishaps := ⟨[], Option.none⟩

/-- The error of a call, if it fails. -/
def Mishaps.at? (m : Mishaps) (number : Nat) : Option DeviceError :=
  match m.onCall.lookup number with
  | some e => some e
  | Option.none => m.otherwise

/-- A device that follows a script. -/
structure DevicePart where
  mishaps : Mishaps
  /-- How long each call takes. -/
  delayMs : Nat
  /-- What the shell commands that succeed print, one after the other; the last one remains. -/
  outputs : List String
  /-- The call during which the run is cancelled. -/
  cancelOnCall : Option Nat
  deriving DecidableEq, Repr

/-- How a helper answers a device, and after how many milliseconds. It goes by the serial, and by
    what has been asked for this device so far, and when; the latest, which it is to answer,
    stands first. -/
abbrev Habit (α : Type) := String → List (Nat × Request) → Nat × Except DeviceError α

/-- The device of a run. -/
inductive DeviceRole where
  | scripted (part : DevicePart)
  /-- Any device that answers by what has been asked of it. -/
  | acting (habit : Habit String)
  | dryRun
  /-- A device behind a program, for which a script may stand in. -/
  | adb (program : String) (standIn : Except Adb.LaunchError Script)

/-- A player of recorded scripts. -/
inductive PlayerRole where
  | absent
  | scripted (mishaps : Mishaps) (delayMs : Nat)
  /-- Any player that answers each device by what has been asked for it. -/
  | acting (habit : Habit Unit)
  | dryRun

/-- What can be seen of the screen. -/
inductive ScreenRole where
  | absent
  /-- Always the same. -/
  | still (screen : Screen)
  /-- One thing after the other; the last one remains. -/
  | changing (first : Except DeviceError Screen) (rest : List (Except DeviceError Screen))
  /-- Whatever each device shows by what has been asked for it. -/
  | acting (habit : Habit Screen)

/-- Where the called workflows come from. -/
inductive StoreRole where
  | absent
  | memory (store : MemoryStore)
  | directory (store : DirectoryStore)
  /-- Any store whose workflows do not change, with the time that it takes for each. -/
  | serving (answers : String → Nat × Except String (Option Workflow))

/-- Everything that a rehearsed run is carried out with. -/
structure Cast where
  settings : Settings
  device : DeviceRole
  player : PlayerRole
  screen : ScreenRole
  store : StoreRole
  /-- Whether events are written to the log. -/
  logsEvents : Bool
  /-- The step at whose end a listener breaks down. -/
  breaksAtEndOf : Option String

/-- What a run can count on. -/
def Cast.rig (cast : Cast) : Rig where
  settings := cast.settings
  hasScreen := match cast.screen with | .absent => false | _ => true
  hasScripts := match cast.player with | .absent => false | _ => true
  hasStore := match cast.store with | .absent => false | _ => true

/-- The item for a number counted from zero; the last item remains. -/
def remaining {α : Type} (number : Nat) (first : α) : List α → α
  | [] => first
  | next :: rest => if number = 0 then first else remaining (number - 1) next rest

/-- A call as it is recorded. -/
def callText : DeviceCall → String
  | .shell command => s!"shell {command}"
  | .tap x y => s!"tap {x.toInt},{y.toInt}"
  | .swipe x1 y1 x2 y2 ms => s!"swipe {x1.toInt},{y1.toInt}->{x2.toInt},{y2.toInt} {ms}ms"
  | .keyEvent code => s!"key {code.toInt}"
  | .app action package => s!"app {action.name} {package}"
  | .element selector action ms =>
    s!"element {action.name} {selector.text} {ms}ms" ++
    match action with
    | .inputText text => s!" text={text}"
    | .swipe direction => " " ++ direction.name
    | _ => ""

end DeviceFlow.Rehearsal
