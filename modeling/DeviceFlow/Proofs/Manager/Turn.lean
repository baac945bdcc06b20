import DeviceFlow.Proofs.Manager.Holder

/-!
# Turns, one state after the other

What a task does in its turn depends on its state alone, on its marks, and on the time. A task
that goes on does so with a plan that its state has in it.
-/

namespace DeviceFlow.Rehearsal.Ensemble

variable {cast : Cast} {m : Ensemble} {n : Nat} {t : Task}

/-- The task of a run that is admitted now. -/
def runTask (cast : Cast) (m : Ensemble) (device : String) (w : Workflow) (vars : Variables) :
    Task :=
  let run : Session := ⟨cast.rig, device⟩
  ⟨device, some (w, m.scene.nowMs), false, false,
    .ready (do return .ran (← run.execute w vars))⟩

/-- The task of a single step that comes now. -/
def singleTask (cast : Cast) (device : String) (s : Step) : Task :=
  let run : Session := ⟨cast.rig, device⟩
  ⟨device, none, false, false, .applying (do return .performed (← run.executeAlone s))⟩

/-- A run that is admitted is told in the log, and gets its first turn later. -/
theorem start_eq_ok (cast : Cast) {device : String} (h : m.registry.isRunning device = false)
    (w : Workflow) (vars : Variables) :
    ∃ m', m.start cast device w vars = .ok (m', m.tasks.length) ∧
      m'.scene = m.scene.keep (Registry.admissionLog w device) ∧
      m'.registry = m.registry.claimed device m.tasks.length ∧
      ∀ k, m'.task? k =
        if k = m.tasks.length then some (runTask cast m device w vars) else m.task? k := by
  let t := runTask cast m device w vars
  let m' : Ensemble := (({ m with registry := m.registry.claimed device m.tasks.length }.add
    t).enqueue m.tasks.length).keep (Registry.admissionLog w device)
  refine ⟨m', ?_, ?_, registry_enqueue _, fun k => ?_⟩
  · unfold start Registry.claim
    rw [h]
    rfl
  · exact congrArg (Scene.keep · _) (scene_enqueue _)
  · exact (task?_enqueue _ k).trans (task?_add t k)

theorem turn_of_isAborted (ht : m.task? n = some t)
    (haborted : t.isAborted = true) (hover : t.state.isOver = false) :
    m.turn cast n = m.settle n t (.over .aborted) := by
  unfold turn
  rw [ht]
  cases hstate : t.state with
  | «over» c => simp [hstate, TaskState.isOver] at hover
  | applying | ready | busy | pausing => simp [hstate, haborted]

/-- The first turn of a single step. -/
theorem turn_of_applying {plan : Plan Ending} (ht : m.task? n = some t)
    (hstate : t.state = .applying plan) (haborted : t.isAborted = false) :
    m.turn cast n =
      if m.registry.isRunning t.device then
        m.settle n t (.over (.refused (.alreadyRunning t.device)))
      else
        { m with registry := m.registry.claimed t.device n }.goOn cast n
          (t.inState (.ready plan)) plan := by
  unfold turn
  rw [ht]
  simp only [hstate, haborted]
  unfold Registry.claim
  cases m.registry.isRunning t.device with
  | true => rfl
  | false => rfl

/-- The turn of a task whose plan is done. -/
theorem turn_of_done {e : Ending} (ht : m.task? n = some t)
    (hstate : t.state = .ready (.done e)) (haborted : t.isAborted = false) :
    m.turn cast n = m.settle n t (.over (.ended e)) := by
  unfold turn
  rw [ht]
  simp only [hstate, haborted]
  rfl

theorem turn_of_ready {plan : Plan Ending} (ht : m.task? n = some t)
    (hstate : t.state = .ready plan) (haborted : t.isAborted = false) :
    m.turn cast n = m.goOn cast n t plan := by
  unfold turn
  rw [ht]
  simp [hstate, haborted]

theorem turn_of_busy {untilMs : Nat} {resume : Scene → Scene × Plan Ending}
    (ht : m.task? n = some t) (hstate : t.state = .busy untilMs resume)
    (haborted : t.isAborted = false) :
    m.turn cast n =
      if m.scene.nowMs < untilMs then m
      else { m with scene := (resume m.scene).1 }.goOn cast n t (resume m.scene).2 := by
  unfold turn
  rw [ht]
  simp [hstate, haborted]

theorem turn_of_pausing {untilMs : Nat} {resume : Bool → Plan Ending}
    (ht : m.task? n = some t) (hstate : t.state = .pausing untilMs resume)
    (haborted : t.isAborted = false) :
    m.turn cast n =
      if untilMs ≤ m.scene.nowMs then m.goOn cast n t (resume true)
      else if t.isCancelled then m.goOn cast n t (resume false)
      else m := by
  unfold turn
  rw [ht]
  simp [hstate, haborted]

theorem turn_of_over {c : Completion} (ht : m.task? n = some t) (hstate : t.state = .over c) :
    m.turn cast n = m := by
  unfold turn
  rw [ht]
  simp [hstate]

/-- What a task can do in its turn, and the plan with which it goes on. -/
inductive Turns (cast : Cast) (m : Ensemble) (n : Nat) : Ensemble → Prop where
  /-- There is no such task, or it is over, or it has still to wait. -/
  | idle : Turns cast m n m
  | aborted {t : Task} (ht : m.task? n = some t) (hover : t.state.isOver = false) :
      Turns cast m n (m.settle n t (.over .aborted))
  | refused {t : Task} {plan : Plan Ending} (ht : m.task? n = some t)
      (hstate : t.state = .applying plan) :
      Turns cast m n (m.settle n t (.over (.refused (.alreadyRunning t.device))))
  /-- It gets its device. -/
  | admitted {t : Task} {plan : Plan Ending} (ht : m.task? n = some t)
      (hstate : t.state = .applying plan) (hfree : m.registry.isRunning t.device = false) :
      Turns cast m n ({ m with registry := m.registry.claimed t.device n }.goOn cast n
        (t.inState (.ready plan)) plan)
  | ready {t : Task} {plan : Plan Ending} (ht : m.task? n = some t)
      (hstate : t.state = .ready plan) : Turns cast m n (m.goOn cast n t plan)
  /-- What it has waited for is there. -/
  | answered {t : Task} {untilMs : Nat} {resume : Scene → Scene × Plan Ending}
      (ht : m.task? n = some t) (hstate : t.state = .busy untilMs resume)
      (hdue : untilMs ≤ m.scene.nowMs) :
      Turns cast m n
        ({ m with scene := (resume m.scene).1 }.goOn cast n t (resume m.scene).2)
  /-- Its pause is over. -/
  | rested {t : Task} {untilMs : Nat} {resume : Bool → Plan Ending} (whole : Bool)
      (ht : m.task? n = some t) (hstate : t.state = .pausing untilMs resume) :
      Turns cast m n (m.goOn cast n t (resume whole))

theorem turns_turn (cast : Cast) (m : Ensemble) (n : Nat) :
    Turns cast m n (m.turn cast n) := by
  cases ht : m.task? n with
  | none =>
    have hidle : m.turn cast n = m := by
      unfold turn
      rw [ht]
    rw [hidle]
    exact .idle
  | some t =>
    cases haborted : t.isAborted with
    | true =>
      cases hover : t.state.isOver with
      | true =>
        obtain ⟨c, hc⟩ := TaskState.exists_of_isOver hover
        rw [turn_of_over ht hc]
        exact .idle
      | false =>
        rw [turn_of_isAborted ht haborted hover]
        exact .aborted ht hover
    | false =>
      cases hstate : t.state with
      | «over» c =>
        rw [turn_of_over ht hstate]
        exact .idle
      | applying plan =>
        rw [turn_of_applying ht hstate haborted]
        cases hrunning : m.registry.isRunning t.device with
        | true => exact .refused ht hstate
        | false => exact .admitted ht hstate hrunning
      | ready plan =>
        rw [turn_of_ready ht hstate haborted]
        exact .ready ht hstate
      | busy untilMs resume =>
        rw [turn_of_busy ht hstate haborted]
        split
        · exact .idle
        · rename_i hdue
          exact .answered ht hstate (Nat.le_of_not_lt hdue)
      | pausing untilMs resume =>
        rw [turn_of_pausing ht hstate haborted]
        split
        · exact .rested true ht hstate
        · split
          · exact .rested false ht hstate
          · exact .idle

end DeviceFlow.Rehearsal.Ensemble
