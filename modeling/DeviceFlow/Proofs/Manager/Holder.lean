import DeviceFlow.Proofs.Manager.Move

/-!
# One holder for each device

The registry and the tasks agree on who holds which device: a device has the holder that the
registry names for it, and no other. Every move keeps this agreement, in whatever order moves
are made and whatever way tasks end in; so a device that is claimed is freed exactly once.
-/

namespace DeviceFlow.Rehearsal

namespace Ensemble

variable {cast : Cast} {m : Ensemble}

/-- The device that the task with a number holds. -/
def held? (m : Ensemble) (n : Nat) : Option String := (m.task? n).bind Task.held?

/-- The registry names the holder of each device, and nobody else. -/
def Agrees (m : Ensemble) : Prop :=
  ∀ device n, m.registry.holder? device = some n ↔ m.held? n = some device

theorem held?_eq_of_task? {n : Nat} {t : Task} (h : m.task? n = some t) :
    m.held? n = t.held? := by
  unfold held?
  rw [h]
  rfl

/-- No two tasks hold one device. -/
theorem Agrees.exclusive (h : m.Agrees) {n k : Nat} {device : String}
    (hn : m.held? n = some device) (hk : m.held? k = some device) : n = k := by
  have hnamed := (h device n).mpr hn
  rw [(h device k).mpr hk] at hnamed
  exact (Option.some.inj hnamed).symm

/-- A device is held by a task exactly when the registry says so. -/
theorem Agrees.isRunning_iff (h : m.Agrees) (device : String) :
    m.registry.isRunning device = true ↔ ∃ n, m.held? n = some device := by
  rw [Registry.isRunning_eq_true_iff]
  exact exists_congr fun n => h device n

/-- Agreement is about the holders that the registry names, and the devices that tasks hold. -/
theorem Agrees.congr {m' : Ensemble} (h : m.Agrees)
    (hregistry : ∀ device, m'.registry.holder? device = m.registry.holder? device)
    (hheld : ∀ n, m'.held? n = m.held? n) : m'.Agrees := by
  intro device n
  rw [hregistry, hheld]
  exact h device n

theorem agrees_opening (scene : Scene) : (opening scene).Agrees := by
  intro device n
  simp [opening, held?, task?, Registry.empty, Registry.holder?]

theorem held?_abort (n k : Nat) : (m.abort n).held? k = m.held? k := by
  unfold held?
  rcases task?_abort (m := m) n k with h | h
  · rw [h]
  · rw [h]
    cases m.task? k with
    | none => rfl
    | some t => rfl

theorem held?_add (t : Task) (k : Nat) :
    (m.add t).held? k = if k = m.tasks.length then t.held? else m.held? k := by
  unfold held?
  rw [task?_add]
  split
  · rfl
  · rfl

theorem held?_settle {n : Nat} {t₀ : Task} (ht : m.task? n = some t₀) (t : Task)
    (state : TaskState) (k : Nat) :
    (m.settle n t state).held? k = if n = k then (t₀.inState state).held? else m.held? k := by
  unfold held?
  rw [task?_settle]
  split
  · rename_i h
    rw [← h, ht]
    rfl
  · rfl

/-- A task that the registry has named as the holder of its device settles; the device is freed
    if the task is over then. Before, all other tasks agree with the registry. -/
theorem agrees_settle {n : Nat} {t₀ t : Task} {state : TaskState} (ht : m.task? n = some t₀)
    (hdevice : t₀.device = t.device) (hholder : t.isHolder = true)
    (hown : ∀ device, m.registry.holder? device = some n ↔ t.device = device)
    (hothers : ∀ device k, k ≠ n →
      (m.registry.holder? device = some k ↔ m.held? k = some device))
    (hstate : state.isApplying = false) : (m.settle n t state).Agrees := by
  intro device k
  rw [holder?_settle, held?_settle ht]
  by_cases hk : n = k
  · subst hk
    rw [if_pos rfl, Task.held?_inState t₀ hstate, hdevice]
    cases state.isOver with
    | true =>
      by_cases hd : t.device = device
      · simp [hholder, hd]
      · simpa [hd] using (not_congr (hown device)).mpr hd
    | false => simpa using hown device
  · rw [if_neg hk]
    by_cases hfreed : state.isOver = true ∧ t.isHolder = true ∧ t.device = device
    · -- The device that is freed has had no other holder.
      have hnamed := (hown device).mpr hfreed.2.2
      have hnone : ¬ m.held? k = some device := by
        intro hheld
        have hother := (hothers device k (Ne.symm hk)).mpr hheld
        rw [hnamed] at hother
        exact hk (Option.some.inj hother)
      simp [hfreed, hnone]
    · rw [if_neg hfreed]
      exact hothers device k (Ne.symm hk)

/-- A holder settles in an ensemble that agrees with its registry. -/
theorem Agrees.settle (h : m.Agrees) {n : Nat} {t : Task} {state : TaskState}
    (ht : m.task? n = some t) (hholder : t.isHolder = true) (hstate : state.isApplying = false) :
    (m.settle n t state).Agrees := by
  refine agrees_settle ht rfl hholder ?_ (fun device k _ => h device k) hstate
  intro device
  rw [h device n, held?_eq_of_task? ht, Task.held?_of_isHolder hholder]
  exact Option.some_inj

/-- A task without a device is over, and frees none. -/
theorem Agrees.settle_over (h : m.Agrees) {n : Nat} {t : Task} (ht : m.task? n = some t)
    (hholder : t.isHolder = false) (c : Completion) : (m.settle n t (.over c)).Agrees := by
  refine h.congr (fun device => by rw [registry_settle_of_not_isHolder hholder]) ?_
  intro k
  rw [held?_settle ht]
  split
  · rename_i hk
    rw [← hk, held?_eq_of_task? ht, Task.held?_of_not_isHolder hholder]
    exact Task.held?_inState t rfl
  · rfl

/-- What a task can do in its turn. -/
inductive Turned (m : Ensemble) (n : Nat) : Ensemble → Prop where
  /-- There is no such task, or it is over, or the time that it waits for has not come. -/
  | idle : Turned m n m
  | aborted {t : Task} (ht : m.task? n = some t) (h : t.isAborted = true)
      (hover : t.state.isOver = false) : Turned m n (m.settle n t (.over .aborted))
  | refused {t : Task} (ht : m.task? n = some t) (h : t.state.isApplying = true)
      (hrunning : m.registry.isRunning t.device = true) :
      Turned m n (m.settle n t (.over (.refused (.alreadyRunning t.device))))
  /-- The task gets its device, and goes on as far as it can. -/
  | admitted {t : Task} (plan : Plan Ending) (scene : Scene) {state : TaskState}
      (ht : m.task? n = some t) (h : t.state.isApplying = true)
      (hfree : m.registry.isRunning t.device = false) (hstate : state.isApplying = false) :
      Turned m n
        ({ m with registry := m.registry.claimed t.device n, scene := scene }.settle n
          (t.inState (.ready plan)) state)
  /-- The task has its device, and goes on as far as it can. -/
  | wentOn {t : Task} (scene : Scene) {state : TaskState} (ht : m.task? n = some t)
      (h : t.isHolder = true) (hstate : state.isApplying = false) :
      Turned m n ({ m with scene := scene }.settle n t state)

/-- A holder that goes on comes to a state after its claim. -/
theorem Turned.goOn {n : Nat} {t : Task} (ht : m.task? n = some t) (h : t.isHolder = true)
    (scene : Scene) (plan : Plan Ending) :
    Turned m n ({ m with scene := scene }.goOn cast n t plan) :=
  .wentOn _ ht h (Task.isApplying_stateAfter _)

theorem turned_turn (cast : Cast) (m : Ensemble) (n : Nat) : Turned m n (m.turn cast n) := by
  unfold turn
  cases ht : m.task? n with
  | none => exact .idle
  | some t =>
    dsimp only
    by_cases haborted : t.isAborted = true
    · cases hstate : t.state with
      | «over» c => exact .idle
      | applying | ready | busy | pausing =>
        dsimp only
        rw [if_pos haborted]
        exact .aborted ht haborted (by rw [hstate]; rfl)
    · cases hstate : t.state with
      | «over» c => exact .idle
      | applying plan =>
        have happlying : t.state.isApplying = true := by rw [hstate]; rfl
        dsimp only
        rw [if_neg haborted]
        unfold Registry.claim
        cases hrunning : m.registry.isRunning t.device with
        | true => exact .refused ht happlying hrunning
        | false => exact .admitted plan _ ht happlying hrunning (Task.isApplying_stateAfter _)
      | ready plan =>
        dsimp only
        rw [if_neg haborted]
        exact .goOn ht (by simp [Task.isHolder, hstate]) m.scene plan
      | busy untilMs resume =>
        dsimp only
        rw [if_neg haborted]
        split
        · exact .idle
        · exact .goOn ht (by simp [Task.isHolder, hstate]) _ _
      | pausing untilMs resume =>
        have h : t.isHolder = true := by simp [Task.isHolder, hstate]
        dsimp only
        rw [if_neg haborted]
        split
        · exact .goOn ht h m.scene _
        · split
          · exact .goOn ht h m.scene _
          · exact .idle

/-- A task that the registry does not know claims a device that nobody holds. -/
theorem Agrees.claimed (h : m.Agrees) {n : Nat} {device : String} (hheld : m.held? n = none)
    (hfree : m.registry.isRunning device = false) (other : String) :
    ((m.registry.claimed device n).holder? other = some n ↔ device = other) ∧
      ∀ k, k ≠ n →
        ((m.registry.claimed device n).holder? other = some k ↔ m.held? k = some other) := by
  rw [Registry.holder?_claimed]
  by_cases hd : device = other
  · subst hd
    have hnobody : ∀ k, ¬ m.held? k = some device := by
      intro k hk
      rw [← h device k, Registry.isRunning_eq_false_iff.mp hfree] at hk
      simp at hk
    refine ⟨by simp, ?_⟩
    intro k hk
    simp [hnobody k, Ne.symm hk]
  · rw [if_neg hd]
    refine ⟨?_, fun k _ => h other k⟩
    rw [h other n, hheld]
    simp [hd]

/-- Whatever a task does in its turn, the registry agrees with the tasks afterwards. -/
theorem Agrees.turned (h : m.Agrees) {n : Nat} {m' : Ensemble} (hturned : Turned m n m') :
    m'.Agrees := by
  cases hturned with
  | idle => exact h
  | @aborted t ht _ _ =>
    cases hholder : t.isHolder with
    | true => exact h.settle ht hholder rfl
    | false => exact h.settle_over ht hholder _
  | @refused t ht happlying _ =>
    refine h.settle_over ht ?_ _
    rw [Task.isHolder_eq, happlying]
    rfl
  | @admitted t plan scene state ht happlying hfree hstate =>
    have hheld : m.held? n = none := by
      rw [held?_eq_of_task? ht]
      apply Task.held?_of_not_isHolder
      rw [Task.isHolder_eq, happlying]
      rfl
    exact agrees_settle ht rfl rfl (fun device => (h.claimed hheld hfree device).1)
      (fun device => (h.claimed hheld hfree device).2) hstate
  | @wentOn t scene state ht hholder hstate =>
    exact Agrees.settle (m := { m with scene := scene }) h ht hholder hstate

theorem start_of_isRunning {device : String} (h : m.registry.isRunning device = true)
    (w : Workflow) (vars : Variables) :
    m.start cast device w vars = .error (.alreadyRunning device) := by
  unfold start Registry.claim
  rw [h]
  rfl

/-- A run that is admitted is a new task, and has its device at once. -/
theorem start_of_not_isRunning (cast : Cast) {device : String}
    (h : m.registry.isRunning device = false) (w : Workflow) (vars : Variables) :
    ∃ t m', m.start cast device w vars = .ok (m', m.tasks.length) ∧
      t.device = device ∧ t.isHolder = true ∧ t.isCancelled = false ∧
      m'.registry = m.registry.claimed device m.tasks.length ∧
      ∀ k, m'.task? k = if k = m.tasks.length then some t else m.task? k := by
  let run : Session := ⟨cast.rig, device⟩
  let plan : Plan Ending := do return .ran (← run.execute w vars)
  let t : Task := ⟨device, some (w, m.scene.nowMs), false, false, .ready plan⟩
  let m' : Ensemble := (({ m with registry := m.registry.claimed device m.tasks.length }.add
    t).enqueue m.tasks.length).keep (Registry.admissionLog w device)
  refine ⟨t, m', ?_, rfl, rfl, rfl, ?_, ?_⟩
  · unfold start Registry.claim
    rw [h]
    rfl
  · exact registry_enqueue _
  · intro k
    exact (task?_enqueue _ k).trans (task?_add t k)

theorem task?_stopAll (m : Ensemble) (k : Nat) :
    m.stopAll.1.task? k =
      if k ∈ m.registry.holders.toList.map Prod.snd then (m.task? k).map Task.cancelled
      else m.task? k :=
  task?_cancelAll ..

@[simp] theorem registry_stopAll (m : Ensemble) : m.stopAll.1.registry = m.registry :=
  registry_cancelAll ..

theorem task?_stop (m : Ensemble) (device : String) (k : Nat) :
    (m.stop device).1.task? k =
      if m.registry.holder? device = some k then (m.task? k).map Task.cancelled
      else m.task? k := by
  unfold stop
  cases h : m.registry.holder? device with
  | none => simp
  | some n =>
    dsimp only
    rw [task?_cancel, task?_keep]
    simp

@[simp] theorem registry_stop (m : Ensemble) (device : String) :
    (m.stop device).1.registry = m.registry := by
  unfold stop
  split
  · rfl
  · dsimp only
    rw [registry_cancel, registry_keep]

/-- Cancelled tasks hold what they have held. -/
theorem held?_of_cancelled {m' : Ensemble} {k : Nat}
    (h : m'.task? k = m.task? k ∨ m'.task? k = (m.task? k).map Task.cancelled) :
    m'.held? k = m.held? k := by
  unfold held?
  rcases h with h | h
  · rw [h]
  · rw [h]
    cases m.task? k with
    | none => rfl
    | some t => rfl

theorem held?_stop (m : Ensemble) (device : String) (k : Nat) :
    (m.stop device).1.held? k = m.held? k := by
  apply held?_of_cancelled
  rw [task?_stop]
  split
  · exact .inr rfl
  · exact .inl rfl

theorem held?_stopAll (m : Ensemble) (k : Nat) : m.stopAll.1.held? k = m.held? k := by
  apply held?_of_cancelled
  rw [task?_stopAll]
  split
  · exact .inr rfl
  · exact .inl rfl

/-- A new task does not take from others what they hold. -/
theorem held?_of_added {m' : Ensemble} {t : Task} {k : Nat}
    (htask : ∀ k, m'.task? k = if k = m.tasks.length then some t else m.task? k)
    (hk : k ≠ m.tasks.length) : m'.held? k = m.held? k := by
  unfold held?
  rw [htask, if_neg hk]

theorem held?_length (m : Ensemble) : m.held? m.tasks.length = none := by
  unfold held?
  rw [task?_length]
  rfl

/-- The agreement is kept by every move. -/
theorem Agrees.apply (h : m.Agrees) (cast : Cast) (move : Move) :
    (move.apply cast m).Agrees := by
  cases move with
  | start device w vars =>
    cases hrunning : m.registry.isRunning device with
    | true =>
      rw [Move.apply, start_of_isRunning hrunning]
      exact h
    | false =>
      obtain ⟨t, m', hstart, hdevice, hholder, _, hregistry, htask⟩ :=
        start_of_not_isRunning cast hrunning w vars
      have hclaimed := h.claimed m.held?_length hrunning
      rw [Move.apply, hstart]
      intro other k
      rw [hregistry]
      by_cases hk : k = m.tasks.length
      · subst hk
        rw [(hclaimed other).1, ← hdevice]
        unfold held?
        rw [htask, if_pos rfl]
        simp [Task.held?_of_isHolder hholder]
      · rw [(hclaimed other).2 k hk, held?_of_added htask hk]
  | single device s =>
    refine h.congr (fun _ => rfl) fun k => ?_
    refine (held?_add _ k).trans ?_
    split
    · rename_i hk
      rw [hk, held?_length]
      rfl
    · rfl
  | stop device =>
    exact h.congr (fun _ => by rw [Move.apply, registry_stop]) (m.held?_stop device)
  | stopAll =>
    exact h.congr (fun _ => by rw [Move.apply, registry_stopAll]) m.held?_stopAll
  | abort n => exact h.congr (fun _ => by rw [Move.apply, registry_abort]) (held?_abort n)
  | turn n => exact h.turned (turned_turn cast m n)
  | answer n answers =>
    dsimp only [Move.apply]
    split
    · rename_i t ht
      split
      · rename_i q next hstate
        exact h.settle ht (by simp [Task.isHolder, hstate]) rfl
      · exact h
    · exact h
  | breakDown n =>
    dsimp only [Move.apply]
    split
    · rename_i t ht
      split
      · rename_i hholder
        exact h.settle ht hholder rfl
      · exact h
    · exact h
  | change scene queue sleepers => exact h

theorem Agrees.play (h : m.Agrees) (cast : Cast) (moves : List Move) :
    (m.play cast moves).Agrees := by
  induction moves generalizing m with
  | nil => exact h
  | cons move moves ih => exact ih (h.apply cast move)

end Ensemble

end DeviceFlow.Rehearsal
