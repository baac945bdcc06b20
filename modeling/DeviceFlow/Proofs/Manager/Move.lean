import DeviceFlow.Proofs.Manager.Operation
import DeviceFlow.Rehearsal.Schedule

/-!
# Moves of an ensemble

Everything that can happen to tasks on one scene happens in moves: the calls of the manager,
the aborts, and the turns of the tasks, which come in any order and as often as they like.
Between two of its requests a task may also be broken down by a listener, or be held up while
others move. Turns in the order of a schedule are moves like all others.
-/

namespace DeviceFlow.Rehearsal

/-- A move of an ensemble. -/
inductive Move where
  /-- A run is to be started. -/
  | start (device : String) (w : Workflow) (vars : Variables)
  /-- A single step comes to wait for its first turn. -/
  | single (device : String) (s : Step)
  /-- The holder of a device is told to stop. -/
  | stop (device : String)
  /-- The holders of all devices are told to stop. -/
  | stopAll
  /-- A task is aborted. -/
  | abort (n : Nat)
  /-- A task gets its turn. -/
  | turn (n : Nat)
  /-- A task that can go on gets an answer to its next request, and is held up then. -/
  | answer (n : Nat) (answers : (q : Request) → q.Answer)
  /-- A listener breaks down a task that has its device. -/
  | breakDown (n : Nat)
  /-- The surroundings change, and who waits for what. -/
  | change (scene : Scene) (queue sleepers : List Nat)

/-- A move is made. -/
def Move.apply (cast : Cast) (m : Ensemble) : Move → Ensemble
  | .start device w vars =>
    match m.start cast device w vars with
    | .ok (m, _) => m
    | .error _ => m
  | .single device s => (m.addSingle cast device s).1
  | .stop device => (m.stop device).1
  | .stopAll => m.stopAll.1
  | .abort n => m.abort n
  | .turn n => m.turn cast n
  | .answer n answers =>
    match m.task? n with
    | some t =>
      match t.state with
      | .ready (.ask q next) => m.settle n t (.ready (next (answers q)))
      | _ => m
    | none => m
  | .breakDown n =>
    match m.task? n with
    | some t => if t.isHolder then m.settle n t (.over .broken) else m
    | none => m
  | .change scene queue sleepers =>
    { m with scene := scene, queue := queue, sleepers := sleepers }

namespace Ensemble

/-- Moves are made one after the other. -/
def play (cast : Cast) (m : Ensemble) (moves : List Move) : Ensemble :=
  moves.foldl (Move.apply cast) m

/-- Some moves lead from one ensemble to another. -/
def Leads (cast : Cast) (m m' : Ensemble) : Prop := ∃ moves, m.play cast moves = m'

variable {cast : Cast} {m m' m'' : Ensemble}

theorem Leads.refl (m : Ensemble) : Leads cast m m := ⟨[], rfl⟩

theorem Leads.trans (h : Leads cast m m') (h' : Leads cast m' m'') : Leads cast m m'' := by
  obtain ⟨moves, rfl⟩ := h
  obtain ⟨moves', rfl⟩ := h'
  exact ⟨moves ++ moves', List.foldl_append⟩

theorem Leads.head (move : Move) (h : Leads cast (move.apply cast m) m') : Leads cast m m' :=
  Leads.trans ⟨[move], rfl⟩ h

/-- A change of the surroundings, and of who waits for what, is a move. -/
theorem leads_change (scene : Scene) (queue sleepers : List Nat) :
    Leads cast m { m with scene := scene, queue := queue, sleepers := sleepers } :=
  ⟨[.change scene queue sleepers], rfl⟩

theorem leads_enqueue (n : Nat) : Leads cast m (m.enqueue n) := by
  unfold enqueue
  split
  · exact .refl m
  · exact leads_change ..

theorem leads_enqueueAll {α : Type} (f : α → Nat) (due : List α) (m : Ensemble) :
    Leads cast m (due.foldl (fun m e => m.enqueue (f e)) m) := by
  induction due generalizing m with
  | nil => exact .refl m
  | cons e due ih => exact (leads_enqueue (f e)).trans (ih _)

theorem leads_drain (turns : Nat) (m : Ensemble) : Leads cast m (drain cast turns m) := by
  induction turns generalizing m with
  | zero => exact .refl m
  | succ turns ih =>
    unfold drain
    split
    · exact .refl m
    · rename_i n rest _
      refine (leads_change m.scene rest m.sleepers).trans ?_
      exact Leads.head (.turn n) (ih _)

theorem leads_jumpTo (ms : Nat) (m : Ensemble) : Leads cast m (jumpTo ms m) := by
  unfold jumpTo
  refine (leads_change (m.scene.pass (ms - m.scene.nowMs)) m.queue m.sleepers).trans ?_
  exact leads_enqueueAll ..

theorem leads_await (n : Nat) (m : Ensemble) : Leads cast m (await cast n m).1 := by
  have hwithin : ∀ turns m, Leads cast m (awaitWithin cast n turns m) := by
    intro turns
    induction turns with
    | zero => exact fun m => .refl m
    | succ turns ih =>
      intro m
      unfold awaitWithin
      split
      · exact .refl m
      · refine (leads_drain maxTurns m).trans ?_
        dsimp only
        split
        · exact .refl _
        · split
          · exact (leads_jumpTo ..).trans (ih _)
          · exact .refl _
  exact hwithin maxTurns m

end Ensemble

end DeviceFlow.Rehearsal
