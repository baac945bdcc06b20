import DeviceFlow.Decimal.Power
import DeviceFlow.Rehearsal.Ensemble

/-!
# Turns and time

Tasks get their turns in the order in which they have asked for them, and time moves only when
nobody is left to go on: then it jumps to the moment at which the first task does. The number
of turns is bounded by a number that no rehearsal reaches.
-/

namespace DeviceFlow.Rehearsal.Ensemble

variable (cast : Cast)

/-- More turns than any rehearsal takes. -/
def maxTurns : Nat := Decimal.twoTo 60

/-- Gives the tasks in the queue their turns until nobody is left. -/
def drain : Nat → Ensemble → Ensemble
  | 0, m => m
  | turns + 1, m =>
    match m.queue with
    | [] => m
    | n :: rest => drain turns ({ m with queue := rest }.turn cast n)

/-- The tasks that wait for a time, with the times, in the order in which they began to wait. -/
def dues (m : Ensemble) : List (Nat × Nat) :=
  m.sleepers.filterMap fun n => ((m.task? n).bind Task.dueMs?).map fun ms => (ms, n)

/-- The moment at which the first task goes on by itself. -/
def nextDue? (m : Ensemble) : Option Nat := (m.dues.map (·.1)).min?

/-- Time jumps to a moment, and the tasks that have waited for it ask for their turns. Of those
    that have waited for the same moment, the one that began first is the first. -/
def jumpTo (ms : Nat) (m : Ensemble) : Ensemble :=
  let m := { m with scene := m.scene.pass (ms - m.scene.nowMs) }
  let due := (m.dues.filter (·.1 ≤ ms)).mergeSort fun a b => a.1 ≤ b.1
  due.foldl (fun m e => m.enqueue e.2) m

/-- Lets time pass up to a moment. Tasks that have waited for this very moment do not get
    their turns yet. -/
def elapseTo (ms : Nat) : Nat → Ensemble → Ensemble
  | 0, m => m
  | turns + 1, m =>
    let m := drain cast maxTurns m
    match m.nextDue? with
    | some due => if due < ms then elapseTo ms turns (jumpTo due m) else jumpTo ms m
    | none => jumpTo ms m

/-- Lets some time pass. -/
def elapse (ms : Nat) (m : Ensemble) : Ensemble :=
  if ms = 0 then m else elapseTo cast (m.scene.nowMs + min ms longestWaitMs) maxTurns m

/-- Lets tasks go on until one of them is over. -/
def awaitWithin (n : Nat) : Nat → Ensemble → Ensemble
  | 0, m => m
  | turns + 1, m =>
    if (m.completion? n).isSome then m
    else
      let m := drain cast maxTurns m
      if (m.completion? n).isSome then m
      else
        match m.nextDue? with
        | some due => awaitWithin n turns (jumpTo due m)
        | none => m

/-- Lets tasks go on until one of them is over, and how it has ended. -/
def await (n : Nat) (m : Ensemble) : Ensemble × Option Completion :=
  let m := awaitWithin cast n maxTurns m
  (m, m.completion? n)

/-- Executes a single step and waits for it. It gets its turn before all others. -/
def performSingle (device : String) (s : Step) (m : Ensemble) : Ensemble × Option Completion :=
  let (m, n) := m.addSingle cast device s
  await cast n (m.turn cast n)

/-- Adds a single step that nobody waits for. -/
def startSingle (device : String) (s : Step) (m : Ensemble) : Ensemble × Nat :=
  let (m, n) := m.addSingle cast device s
  (m.enqueue n, n)

end DeviceFlow.Rehearsal.Ensemble
