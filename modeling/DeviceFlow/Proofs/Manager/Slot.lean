import DeviceFlow.Proofs.Manager.Turn

/-!
# Claims and releases

The main statement about the manager of devices: in every ensemble that moves lead to, a device
serves one task at most, the calls of the manager tell and do what they should for this, and a
device is free again after its holder has ended, in whatever way.
-/

namespace DeviceFlow.Rehearsal

/-- A task in this state has claimed its device and got it, or was aborted before. -/
def TaskState.isUnrefused : TaskState → Bool
  | .applying _ | .over (.refused _) => false
  | .ready _ | .busy .. | .pausing .. | .over _ => true

theorem Task.isUnrefused_stateAfter (pace : Pace Ending) :
    (stateAfter pace).isUnrefused = true := by
  cases pace with
  | done | broken | busy | pausing => rfl

namespace Ensemble

variable {cast : Cast} {m m' : Ensemble} {n : Nat}

theorem start_eq_error_iff {device : String} {w : Workflow} {vars : Variables} {e : RunError} :
    m.start cast device w vars = .error e ↔
      m.registry.isRunning device = true ∧ e = .alreadyRunning device := by
  cases hrunning : m.registry.isRunning device with
  | true =>
    rw [start_of_isRunning hrunning]
    simp [eq_comm]
  | false =>
    obtain ⟨t, m', hstart, _⟩ := start_of_not_isRunning cast hrunning w vars
    simp [hstart]

theorem isRunning_settle_over {n : Nat} {t : Task} (hholder : t.isHolder = true)
    (c : Completion) : (m.settle n t (.over c)).registry.isRunning t.device = false := by
  rw [Registry.isRunning_eq_false_iff, holder?_settle]
  simp [TaskState.isOver, hholder]

theorem completion?_settle_over {n : Nat} {t₀ : Task} (ht : m.task? n = some t₀) (t : Task)
    (c : Completion) : (m.settle n t (.over c)).completion? n = some c := by
  unfold completion?
  rw [task?_settle, if_pos rfl, ht]
  rfl

/-- A task has claimed its device, and was not refused it. -/
def Unrefused (m : Ensemble) (n : Nat) : Prop :=
  ∃ t, m.task? n = some t ∧ t.state.isUnrefused = true

theorem Unrefused.completion?_ne (h : m.Unrefused n) (e : RunError) :
    m.completion? n ≠ some (.refused e) := by
  obtain ⟨t, ht, hstate⟩ := h
  intro hrefused
  unfold completion? at hrefused
  rw [ht, Option.bind_some] at hrefused
  cases hcase : t.state with
  | «over» c =>
    simp only [Task.completion?, hcase, Option.some.injEq] at hrefused
    rw [hcase, hrefused] at hstate
    cases hstate
  | applying | ready | busy | pausing => simp [Task.completion?, hcase] at hrefused

theorem unrefused_settle {t₀ : Task} (ht : m.task? n = some t₀) (t : Task) {state : TaskState}
    (hstate : state.isUnrefused = true) : (m.settle n t state).Unrefused n := by
  refine ⟨t₀.inState state, ?_, hstate⟩
  rw [task?_settle, if_pos rfl, ht]
  rfl

/-- A task that goes on with a plan has got its device. -/
theorem unrefused_goOn (cast : Cast) {t₀ : Task} (ht : m.task? n = some t₀) (t : Task)
    (plan : Plan Ending) : (m.goOn cast n t plan).Unrefused n := by
  have ht' : ∀ scene, ({ m with scene := scene } : Ensemble).task? n = some t₀ := fun _ => ht
  exact unrefused_settle (ht' _) t (Task.isUnrefused_stateAfter _)

/-- What settles is not refused, if it was not before. -/
theorem Unrefused.settle (h : m.Unrefused n) {k : Nat} {t₀ : Task} (ht : m.task? k = some t₀)
    (t : Task) {state : TaskState} (hstate : k = n → state.isUnrefused = true) :
    (m.settle k t state).Unrefused n := by
  by_cases hk : k = n
  · subst hk
    exact unrefused_settle ht t (hstate rfl)
  · obtain ⟨t', ht', hstate'⟩ := h
    exact ⟨t', by rw [task?_settle, if_neg hk, ht'], hstate'⟩

theorem Unrefused.goOn (h : m.Unrefused n) (cast : Cast) {k : Nat} {t₀ : Task}
    (ht : m.task? k = some t₀) (t : Task) (plan : Plan Ending) :
    (m.goOn cast k t plan).Unrefused n := by
  apply Unrefused.settle
  · exact h
  · exact ht
  · exact fun _ => Task.isUnrefused_stateAfter _

/-- Nor is it refused when tasks are only marked, or others are added. -/
theorem Unrefused.marked (h : m.Unrefused n)
    (htask : m'.task? n = m.task? n ∨ m'.task? n = (m.task? n).map Task.cancelled ∨
      m'.task? n = (m.task? n).map Task.aborted) : m'.Unrefused n := by
  obtain ⟨t, ht, hstate⟩ := h
  rcases htask with h | h | h
  · exact ⟨t, h.trans ht, hstate⟩
  · exact ⟨t.cancelled, by rw [h, ht]; rfl, hstate⟩
  · exact ⟨t.aborted, by rw [h, ht]; rfl, hstate⟩

theorem Unrefused.turn (h : m.Unrefused n) (cast : Cast) (k : Nat) :
    (m.turn cast k).Unrefused n := by
  have hturns := turns_turn cast m k
  generalize m.turn cast k = m' at hturns ⊢
  cases hturns with
  | idle => exact h
  | aborted ht _ => exact h.settle ht _ fun _ => rfl
  | refused ht hstate =>
    -- Whoever is refused has still applied for its device before.
    refine h.settle ht _ fun hk => ?_
    subst hk
    obtain ⟨t, ht', hstate'⟩ := h
    rw [ht] at ht'
    cases ht'
    rw [hstate] at hstate'
    cases hstate'
  | admitted ht _ _ =>
    apply Unrefused.goOn
    · exact h
    · exact ht
  | ready ht _ => exact h.goOn cast ht _ _
  | answered ht _ _ =>
    apply Unrefused.goOn
    · exact h
    · exact ht
  | rested whole ht _ => exact h.goOn cast ht _ _

/-- A task that was not refused its device never will be. -/
theorem Unrefused.apply (h : m.Unrefused n) (cast : Cast) (move : Move) :
    (move.apply cast m).Unrefused n := by
  have hold : n ≠ m.tasks.length := by
    rintro rfl
    obtain ⟨t, ht, _⟩ := h
    rw [task?_length] at ht
    cases ht
  cases move with
  | start device w vars =>
    cases hrunning : m.registry.isRunning device with
    | true =>
      rw [Move.apply, start_of_isRunning hrunning]
      exact h
    | false =>
      obtain ⟨m', hstart, _, _, htask⟩ := start_eq_ok cast hrunning w vars
      rw [Move.apply, hstart]
      exact h.marked (.inl ((htask n).trans (if_neg hold)))
  | single device s => exact h.marked (.inl ((task?_add _ n).trans (if_neg hold)))
  | stop device =>
    refine h.marked ?_
    rw [Move.apply, task?_stop]
    split
    · exact .inr (.inl rfl)
    · exact .inl rfl
  | stopAll =>
    refine h.marked ?_
    rw [Move.apply, task?_stopAll]
    split
    · exact .inr (.inl rfl)
    · exact .inl rfl
  | abort k => exact h.marked ((task?_abort k n).imp_right .inr)
  | turn k => exact h.turn cast k
  | answer k answers =>
    dsimp only [Move.apply]
    split
    · rename_i t ht
      split
      · exact h.settle ht t fun _ => rfl
      · exact h
    · exact h
  | breakDown k =>
    dsimp only [Move.apply]
    split
    · rename_i t ht
      split
      · exact h.settle ht t fun _ => rfl
      · exact h
    · exact h
  | change scene queue sleepers => exact h

theorem Unrefused.leads (h : m.Unrefused n) (hleads : Leads cast m m') : m'.Unrefused n := by
  obtain ⟨moves, rfl⟩ := hleads
  induction moves generalizing m with
  | nil => exact h
  | cons move moves ih => exact ih (h.apply cast move)

/-- Nobody waits for a task that is over. -/
theorem await_of_completion? (cast : Cast) {c : Completion} (h : m.completion? n = some c) :
    m.await cast n = (m, some c) := by
  have hidle : ∀ turns, awaitWithin cast n turns m = m := by
    intro turns
    cases turns with
    | zero => rfl
    | succ turns =>
      unfold awaitWithin
      simp [h]
  unfold await
  rw [hidle]
  exact Prod.ext rfl h

/-- A single step on a device that is running is refused before anybody else moves. -/
theorem performSingle_of_isRunning (cast : Cast) {device : String}
    (h : m.registry.isRunning device = true) (s : Step) :
    m.performSingle cast device s =
      ((m.add (singleTask cast device s)).settle m.tasks.length (singleTask cast device s)
        (.over (.refused (.alreadyRunning device))), some (.refused (.alreadyRunning device))) := by
  have ht : (m.add (singleTask cast device s)).task? m.tasks.length =
      some (singleTask cast device s) := by rw [task?_add, if_pos rfl]
  have hturn : (m.add (singleTask cast device s)).turn cast m.tasks.length = _ :=
    turn_of_applying ht rfl rfl
  have hrunning : (m.add (singleTask cast device s)).registry.isRunning
      (singleTask cast device s).device = true := h
  rw [if_pos hrunning] at hturn
  have hover := completion?_settle_over ht (singleTask cast device s)
    (.refused (.alreadyRunning device))
  have hawaited := await_of_completion? cast hover
  unfold performSingle
  exact (congrArg (Ensemble.await cast m.tasks.length) hturn).trans hawaited

/-- One on a device that is not running gets it, whatever comes of it. -/
theorem unrefused_performSingle (cast : Cast) {device : String}
    (h : m.registry.isRunning device = false) (s : Step) :
    (m.performSingle cast device s).1.Unrefused m.tasks.length := by
  have ht : (m.add (singleTask cast device s)).task? m.tasks.length =
      some (singleTask cast device s) := by rw [task?_add, if_pos rfl]
  have hturn : (m.add (singleTask cast device s)).turn cast m.tasks.length = _ :=
    turn_of_applying ht rfl rfl
  have hfree : ¬ (m.add (singleTask cast device s)).registry.isRunning
      (singleTask cast device s).device = true := by
    rw [Bool.not_eq_true]
    exact h
  rw [if_neg hfree] at hturn
  have hturned : ((m.add (singleTask cast device s)).turn cast m.tasks.length).Unrefused
      m.tasks.length := by
    rw [hturn]
    apply unrefused_goOn
    exact ht
  exact hturned.leads (leads_await m.tasks.length _)

theorem performSingle_eq_refused_iff {device : String} {s : Step} {e : RunError} :
    (m.performSingle cast device s).2 = some (.refused e) ↔
      m.registry.isRunning device = true ∧ e = .alreadyRunning device := by
  cases hrunning : m.registry.isRunning device with
  | true =>
    rw [performSingle_of_isRunning cast hrunning]
    simp [eq_comm]
  | false =>
    have hunrefused := unrefused_performSingle cast hrunning s
    have hcompletion : (m.performSingle cast device s).2 =
        (m.performSingle cast device s).1.completion? m.tasks.length := rfl
    rw [hcompletion]
    simp [hunrefused.completion?_ne e]

/-- A single step that gets its device holds it after its first turn, unless it is over by then,
    and the device is free again. -/
theorem held?_admitted (cast : Cast) {t : Task} {plan : Plan Ending} (ht : m.task? n = some t)
    (hstate : t.state = .applying plan) (haborted : t.isAborted = false)
    (hfree : m.registry.isRunning t.device = false) :
    (m.turn cast n).held? n = some t.device ∨
      (∃ c, (m.turn cast n).completion? n = some c) ∧
        (m.turn cast n).registry.isRunning t.device = false := by
  rw [turn_of_applying ht hstate haborted, if_neg (by simp [hfree])]
  unfold goOn
  generalize cast.advance _ _ plan _ = advanced
  obtain ⟨scene, pace⟩ := advanced
  let claimed : Ensemble :=
    { m with registry := m.registry.claimed t.device n, scene := scene }
  have ht' : claimed.task? n = some t := ht
  have hholder : (t.inState (.ready plan)).isHolder = true := rfl
  have hsettled := held?_settle ht' (t.inState (.ready plan)) (Task.stateAfter pace) n
  rw [if_pos rfl, Task.held?_inState t (Task.isApplying_stateAfter pace)] at hsettled
  change (claimed.settle n _ _).held? n = _ ∨ (∃ c, (claimed.settle n _ _).completion? n = _) ∧
    (claimed.settle n _ _).registry.isRunning _ = _
  cases hover : (Task.stateAfter pace).isOver with
  | true =>
    obtain ⟨c, hc⟩ := TaskState.exists_of_isOver hover
    rw [hc]
    exact .inr ⟨⟨c, completion?_settle_over ht' _ c⟩, isRunning_settle_over hholder c⟩
  | false =>
    rw [hover] at hsettled
    exact .inl hsettled

/-- The entries of the registry are the tasks that hold a device. -/
theorem Agrees.mem_holders_iff (h : m.Agrees) (n : Nat) :
    n ∈ m.registry.holders.toList.map Prod.snd ↔ (m.held? n).isSome = true := by
  rw [List.mem_map, Option.isSome_iff_exists]
  constructor
  · rintro ⟨⟨device, k⟩, hentry, rfl⟩
    exact ⟨device, (h device k).mp ((Dict.mem_toList_iff ..).mp hentry)⟩
  · rintro ⟨device, hheld⟩
    exact ⟨(device, n), (Dict.mem_toList_iff ..).mpr ((h device n).mpr hheld), rfl⟩

/-- A task that does not hold its device any more after a task has settled is that task, and
    has freed the device. -/
theorem isRunning_settle {n k : Nat} {t : Task} {state : TaskState} {device : String}
    (ht : m.task? k = some t) (hheld : m.held? n = some device)
    (hstate : state.isApplying = false)
    (hfreed : (m.settle k t state).held? n ≠ some device) :
    (m.settle k t state).registry.isRunning device = false := by
  rw [held?_settle ht] at hfreed
  by_cases hk : k = n
  · subst hk
    rw [held?_eq_of_task? ht, Task.held?_eq_some_iff] at hheld
    obtain ⟨hholder, rfl⟩ := hheld
    rw [if_pos rfl, Task.held?_inState t hstate] at hfreed
    cases state with
    | «over» c => exact isRunning_settle_over hholder c
    | applying | ready | busy | pausing => exact absurd rfl hfreed
  · rw [if_neg hk] at hfreed
    exact absurd hheld hfreed

theorem isRunning_turned {n k : Nat} {m' : Ensemble} {device : String}
    (hheld : m.held? n = some device) (hturned : Turned m k m')
    (hfreed : m'.held? n ≠ some device) : m'.registry.isRunning device = false := by
  cases hturned with
  | idle => exact absurd hheld hfreed
  | aborted ht _ _ => exact isRunning_settle ht hheld rfl hfreed
  | refused ht _ _ => exact isRunning_settle ht hheld rfl hfreed
  | @admitted t plan scene state ht happlying hfree hstate =>
    -- The task that is admitted has held no device before.
    have hk : k ≠ n := by
      rintro rfl
      rw [held?_eq_of_task? ht, Task.held?_eq_some_iff, Task.isHolder_eq, happlying] at hheld
      simp at hheld
    rw [held?_settle (m := { m with registry := _, scene := scene }) ht, if_neg hk] at hfreed
    exact absurd hheld hfreed
  | @wentOn t scene state ht _ hstate =>
    exact isRunning_settle (m := { m with scene := scene }) ht hheld hstate hfreed

/-- When a task does not hold its device any more after a move, the device is free. -/
theorem isRunning_apply {n : Nat} {device : String} (hheld : m.held? n = some device)
    {move : Move} (hfreed : (move.apply cast m).held? n ≠ some device) :
    (move.apply cast m).registry.isRunning device = false := by
  have hold : n ≠ m.tasks.length := by
    rintro rfl
    simp [held?_length] at hheld
  cases move with
  | start other w vars =>
    dsimp only [Move.apply] at hfreed ⊢
    cases hrunning : m.registry.isRunning other with
    | true =>
      rw [start_of_isRunning hrunning] at hfreed
      exact absurd hheld hfreed
    | false =>
      obtain ⟨t, m', hstart, _, _, _, _, htask⟩ :=
        start_of_not_isRunning cast hrunning w vars
      rw [hstart] at hfreed
      exact absurd ((held?_of_added htask hold).trans hheld) hfreed
  | single other s =>
    exact absurd ((held?_of_added (task?_add _) hold).trans hheld) hfreed
  | stop other => exact absurd ((m.held?_stop other n).trans hheld) hfreed
  | stopAll => exact absurd ((m.held?_stopAll n).trans hheld) hfreed
  | abort k => exact absurd ((held?_abort k n).trans hheld) hfreed
  | turn k => exact isRunning_turned hheld (turned_turn cast m k) hfreed
  | answer k answers =>
    dsimp only [Move.apply] at hfreed ⊢
    split at hfreed
    · rename_i t ht
      split at hfreed
      · exact isRunning_settle ht hheld rfl hfreed
      · exact absurd hheld hfreed
    · exact absurd hheld hfreed
  | breakDown k =>
    dsimp only [Move.apply] at hfreed ⊢
    split at hfreed
    · rename_i t ht
      by_cases hholder : t.isHolder = true
      · rw [if_pos hholder] at hfreed ⊢
        exact isRunning_settle ht hheld rfl hfreed
      · rw [if_neg hholder] at hfreed
        exact absurd hheld hfreed
    · exact absurd hheld hfreed
  | change scene queue sleepers => exact absurd hheld hfreed

theorem isCancelled_settle {n k : Nat} {t t' : Task} {state : TaskState}
    (h : (m.settle k t state).task? n = some t') :
    ∃ u, m.task? n = some u ∧ t'.isCancelled = u.isCancelled := by
  rw [task?_settle] at h
  split at h
  · obtain ⟨u, hu, rfl⟩ := Option.map_eq_some_iff.mp h
    exact ⟨u, hu, rfl⟩
  · exact ⟨t', h, rfl⟩

theorem isCancelled_turned {n k : Nat} {t' : Task} {m' : Ensemble} (hturned : Turned m k m')
    (h : m'.task? n = some t') : ∃ u, m.task? n = some u ∧ t'.isCancelled = u.isCancelled := by
  cases hturned with
  | idle => exact ⟨t', h, rfl⟩
  | aborted | refused => exact isCancelled_settle h
  | @admitted t plan scene =>
    exact isCancelled_settle (m := { m with registry := _, scene := scene }) h
  | @wentOn t scene => exact isCancelled_settle (m := { m with scene := scene }) h

/-- A task that is cancelled after a move either has been before, or holds a device when the
    holder of this device, or every holder, is told to stop. -/
theorem isCancelled_apply (hagrees : m.Agrees) {move : Move} {n : Nat} {t' : Task}
    (h : (move.apply cast m).task? n = some t') (hcancelled : t'.isCancelled = true) :
    ∃ t, m.task? n = some t ∧
      (t.isCancelled = true ∨
        ∃ device, m.held? n = some device ∧ (move = .stop device ∨ move = .stopAll)) := by
  cases move with
  | start device w vars =>
    dsimp only [Move.apply] at h
    cases hrunning : m.registry.isRunning device with
    | true =>
      rw [start_of_isRunning hrunning] at h
      exact ⟨t', h, .inl hcancelled⟩
    | false =>
      obtain ⟨t, m', hstart, _, _, hnew, _, htask⟩ := start_of_not_isRunning cast hrunning w vars
      rw [hstart] at h
      dsimp only at h
      rw [htask] at h
      split at h
      · cases h
        simp [hnew] at hcancelled
      · exact ⟨t', h, .inl hcancelled⟩
  | single device s =>
    have hadded := h
    dsimp only [Move.apply, addSingle] at hadded
    rw [task?_add] at hadded
    split at hadded
    · cases hadded
      simp at hcancelled
    · exact ⟨t', hadded, .inl hcancelled⟩
  | stop device =>
    rw [Move.apply, task?_stop] at h
    split at h
    · rename_i hnamed
      obtain ⟨t, ht, rfl⟩ := Option.map_eq_some_iff.mp h
      exact ⟨t, ht, .inr ⟨device, (hagrees device n).mp hnamed, .inl rfl⟩⟩
    · exact ⟨t', h, .inl hcancelled⟩
  | stopAll =>
    rw [Move.apply, task?_stopAll] at h
    split at h
    · rename_i hmem
      obtain ⟨t, ht, rfl⟩ := Option.map_eq_some_iff.mp h
      obtain ⟨device, hheld⟩ := Option.isSome_iff_exists.mp ((hagrees.mem_holders_iff n).mp hmem)
      exact ⟨t, ht, .inr ⟨device, hheld, .inr rfl⟩⟩
    · exact ⟨t', h, .inl hcancelled⟩
  | abort k =>
    rcases task?_abort (m := m) k n with hsame | haborted
    · exact ⟨t', hsame ▸ h, .inl hcancelled⟩
    · rw [Move.apply, haborted] at h
      obtain ⟨t, ht, rfl⟩ := Option.map_eq_some_iff.mp h
      exact ⟨t, ht, .inl hcancelled⟩
  | turn k =>
    obtain ⟨t, ht, heq⟩ := isCancelled_turned (turned_turn cast m k) h
    exact ⟨t, ht, .inl (heq ▸ hcancelled)⟩
  | answer k answers =>
    dsimp only [Move.apply] at h
    split at h
    · split at h
      · obtain ⟨t, ht, heq⟩ := isCancelled_settle h
        exact ⟨t, ht, .inl (heq ▸ hcancelled)⟩
      · exact ⟨t', h, .inl hcancelled⟩
    · exact ⟨t', h, .inl hcancelled⟩
  | breakDown k =>
    dsimp only [Move.apply] at h
    split at h
    · split at h
      · obtain ⟨t, ht, heq⟩ := isCancelled_settle h
        exact ⟨t, ht, .inl (heq ▸ hcancelled)⟩
      · exact ⟨t', h, .inl hcancelled⟩
    · exact ⟨t', h, .inl hcancelled⟩
  | change scene queue sleepers => exact ⟨t', h, .inl hcancelled⟩

theorem stop_eq_true_iff {device : String} :
    (m.stop device).2 = true ↔ m.registry.isRunning device = true := by
  rw [Registry.isRunning_eq_true_iff]
  unfold stop
  cases m.registry.holder? device with
  | none => simp
  | some n => simp

/-- What the manager of devices guarantees in an ensemble. -/
structure Orderly (cast : Cast) (m : Ensemble) : Prop where
  /-- A device is held by one task at most. -/
  exclusive : ∀ device n k, m.held? n = some device → m.held? k = some device → n = k
  /-- A device is known to be running exactly when a task holds it. -/
  isRunning_iff : ∀ device,
    m.registry.isRunning device = true ↔ ∃ n, m.held? n = some device
  /-- A run is refused exactly when its device is running, and always for this reason. -/
  start_eq_error_iff : ∀ device w vars e, m.start cast device w vars = .error e ↔
    m.registry.isRunning device = true ∧ e = .alreadyRunning device
  /-- A run that is refused leaves everything as it is. -/
  start_refused : ∀ device w vars, m.registry.isRunning device = true →
    (Move.start device w vars).apply cast m = m
  /-- A run that is not refused is a new task, which holds the device at once. -/
  start_admitted : ∀ device w vars, m.registry.isRunning device = false →
    ∃ m', m.start cast device w vars = .ok (m', m.tasks.length) ∧
      m'.held? m.tasks.length = some device ∧
      ∀ k, k ≠ m.tasks.length → m'.task? k = m.task? k
  /-- A single step is a new task, which has still to claim its device. -/
  single_added : ∀ device s, (m.addSingle cast device s).2 = m.tasks.length ∧
    (m.addSingle cast device s).1.registry = m.registry ∧
    (m.addSingle cast device s).1.scene = m.scene ∧
    ∀ k, (m.addSingle cast device s).1.task? k =
      if k = m.tasks.length then some (singleTask cast device s) else m.task? k
  /-- A single step is refused in its first turn exactly when its device is running. -/
  single_refused_iff : ∀ n t plan, m.task? n = some t → t.state = .applying plan →
    t.isAborted = false →
      ((m.turn cast n).completion? n = some (.refused (.alreadyRunning t.device)) ↔
        m.registry.isRunning t.device = true)
  /-- A single step that is refused changes neither the registry nor another task. -/
  single_refused : ∀ n t plan, m.task? n = some t → t.state = .applying plan →
    t.isAborted = false → m.registry.isRunning t.device = true →
      (m.turn cast n).registry = m.registry ∧
        ∀ k, k ≠ n → (m.turn cast n).task? k = m.task? k
  /-- A single step that is not refused holds its device after its first turn, unless it is over
      by then, and the device is free again. -/
  single_admitted : ∀ n t plan, m.task? n = some t → t.state = .applying plan →
    t.isAborted = false → m.registry.isRunning t.device = false →
      (m.turn cast n).held? n = some t.device ∨
        (∃ c, (m.turn cast n).completion? n = some c) ∧
          (m.turn cast n).registry.isRunning t.device = false
  /-- A caller who waits for a single step is refused exactly when the device is running, and
      always for this reason. -/
  performSingle_eq_refused_iff : ∀ device s e,
    (m.performSingle cast device s).2 = some (.refused e) ↔
      m.registry.isRunning device = true ∧ e = .alreadyRunning device
  /-- When he is refused, nothing else has changed. -/
  performSingle_refused : ∀ device s, m.registry.isRunning device = true →
    (m.performSingle cast device s).1.registry = m.registry ∧
      (m.performSingle cast device s).1.scene = m.scene ∧
      ∀ k, k ≠ m.tasks.length → (m.performSingle cast device s).1.task? k = m.task? k
  /-- Telling a device to stop succeeds exactly when it is running. -/
  stop_eq_true_iff : ∀ device,
    (m.stop device).2 = true ↔ m.registry.isRunning device = true
  /-- It cancels the holder of the device and nobody else. -/
  task?_stop : ∀ device k, (m.stop device).1.registry = m.registry ∧
    (m.stop device).1.task? k =
      if m.held? k = some device then (m.task? k).map Task.cancelled else m.task? k
  /-- Telling all devices to stop cancels all holders and nobody else. -/
  task?_stopAll : ∀ k, m.stopAll.1.registry = m.registry ∧
    m.stopAll.1.task? k =
      if (m.held? k).isSome then (m.task? k).map Task.cancelled else m.task? k
  /-- A task is never cancelled but while it holds a device that is told to stop; so no task
      begins as a cancelled one. -/
  isCancelled_apply : ∀ move n t', (Move.apply cast m move).task? n = some t' →
    t'.isCancelled = true →
      ∃ t, m.task? n = some t ∧
        (t.isCancelled = true ∨
          ∃ device, m.held? n = some device ∧ (move = .stop device ∨ move = .stopAll))
  /-- A task that ceases to hold its device leaves it free, whatever the move was. -/
  freed : ∀ move n device, m.held? n = some device →
    (Move.apply cast m move).held? n ≠ some device →
      (Move.apply cast m move).registry.isRunning device = false
  /-- A holder that has returned is over after its turn, and its device is free. -/
  returned : ∀ n t e, m.task? n = some t → t.state = .ready (.done e) → t.isAborted = false →
    (m.turn cast n).completion? n = some (.ended e) ∧
      (m.turn cast n).registry.isRunning t.device = false
  /-- A holder that has been aborted is over after its turn, and its device is free; this may
      be its first turn. -/
  aborted : ∀ n t, m.task? n = some t → t.isHolder = true → t.isAborted = true →
    (m.turn cast n).completion? n = some .aborted ∧
      (m.turn cast n).registry.isRunning t.device = false
  /-- A holder that is broken down is over, and its device is free. -/
  broken : ∀ n t, m.task? n = some t → t.isHolder = true →
    ((Move.breakDown n).apply cast m).completion? n = some .broken ∧
      ((Move.breakDown n).apply cast m).registry.isRunning t.device = false

theorem Agrees.orderly (h : m.Agrees) (cast : Cast) : m.Orderly cast where
  exclusive _ _ _ := h.exclusive
  isRunning_iff := h.isRunning_iff
  start_eq_error_iff _ _ _ _ := Ensemble.start_eq_error_iff
  start_refused device w vars hrunning := by
    rw [Move.apply, start_of_isRunning hrunning]
  start_admitted device w vars hfree := by
    obtain ⟨t, m', hstart, hdevice, hholder, _, _, htask⟩ :=
      start_of_not_isRunning cast hfree w vars
    refine ⟨m', hstart, ?_, fun k hk => by rw [htask, if_neg hk]⟩
    have hnew : m'.task? m.tasks.length = some t := by rw [htask, if_pos rfl]
    rw [held?_eq_of_task? hnew, Task.held?_of_isHolder hholder, hdevice]
  single_added device s := ⟨rfl, rfl, rfl, task?_add _⟩
  single_refused_iff n t plan ht hstate haborted := by
    rw [turn_of_applying ht hstate haborted]
    cases hrunning : m.registry.isRunning t.device with
    | true =>
      rw [if_pos rfl, completion?_settle_over ht]
      simp
    | false =>
      have hgoesOn := unrefused_goOn (m := { m with registry := m.registry.claimed t.device n })
        cast ht (t.inState (.ready plan)) plan
      simpa using hgoesOn.completion?_ne (.alreadyRunning t.device)
  single_refused n t plan ht hstate haborted hrunning := by
    rw [turn_of_applying ht hstate haborted, if_pos hrunning]
    refine ⟨registry_settle_of_not_isHolder ?_ _ _, ?_⟩
    · simp [Task.isHolder, hstate]
    · intro k hk
      rw [task?_settle, if_neg (Ne.symm hk)]
  single_admitted n t plan ht hstate haborted hfree := held?_admitted cast ht hstate haborted hfree
  performSingle_eq_refused_iff _ _ _ := Ensemble.performSingle_eq_refused_iff
  performSingle_refused device s hrunning := by
    rw [performSingle_of_isRunning cast hrunning]
    refine ⟨registry_settle_of_not_isHolder rfl _ _, rfl, fun k hk => ?_⟩
    rw [task?_settle, if_neg (Ne.symm hk), task?_add, if_neg hk]
  stop_eq_true_iff _ := Ensemble.stop_eq_true_iff
  task?_stop device k := by
    refine ⟨registry_stop m device, ?_⟩
    rw [Ensemble.task?_stop]
    simp only [h device k]
  task?_stopAll k := by
    refine ⟨registry_stopAll m, ?_⟩
    rw [Ensemble.task?_stopAll]
    simp only [h.mem_holders_iff]
  isCancelled_apply _ _ _ := isCancelled_apply h
  freed _ _ _ hheld hfreed := isRunning_apply hheld hfreed
  returned n t e ht hstate haborted := by
    rw [turn_of_done ht hstate haborted]
    exact ⟨completion?_settle_over ht .., isRunning_settle_over (by simp [Task.isHolder, hstate]) _⟩
  aborted n t ht hholder haborted := by
    have hover : t.state.isOver = false := by
      rw [Task.isHolder_eq, Bool.and_eq_true] at hholder
      simpa using hholder.2
    rw [turn_of_isAborted ht haborted hover]
    exact ⟨completion?_settle_over ht .., isRunning_settle_over hholder _⟩
  broken n t ht hholder := by
    have happly : (Move.breakDown n).apply cast m = m.settle n t (.over .broken) := by
      dsimp only [Move.apply]
      rw [ht]
      exact if_pos hholder
    rw [happly]
    exact ⟨completion?_settle_over ht .., isRunning_settle_over hholder _⟩

/-- Whatever moves are made, and in whatever order: every device has one holder at most, and no
    device remains held when its holder has ended. -/
theorem orderly_play (cast : Cast) (scene : Scene) (moves : List Move) :
    ((opening scene).play cast moves).Orderly cast :=
  ((agrees_opening scene).play cast moves).orderly cast

/-- A device whose calls take their time. -/
def slowDevice : Cast where
  settings := .default
  device := .scripted ⟨.none, 5, [], none⟩
  player := .absent
  screen := .absent
  store := .absent
  logsEvents := false
  breaksAtEndOf := none

/-- A step that taps the screen. -/
def press : Step := Step.new "press" (.tap (some 1) (some 2))

/-- A workflow whose only step taps the screen. -/
def pressing : Workflow :=
  .ofSteps "pressing" [(Step.new "start" .start).andThen "press", press]

/-- Two single steps come while a run has the device. The first one claims it during the run, the
    second one after the run was stopped and aborted; and a run on another device breaks down. -/
def contended : List Move :=
  [.start "d" pressing Dict.empty, .single "d" press, .single "d" press, .turn 0, .turn 1,
    .start "e" pressing Dict.empty, .turn 3, .breakDown 3, .stop "d", .abort 0, .turn 0, .turn 2]

/-- The first step is refused, and the second one holds the device in the end and was never told to
    stop, so a third one would be refused. -/
theorem orderly_contended :
    let m := (opening (.opening .empty)).play slowDevice contended
    m.Orderly slowDevice ∧
      m.completion? 0 = some .aborted ∧
      m.completion? 1 = some (.refused (.alreadyRunning "d")) ∧
      m.completion? 3 = some .broken ∧ m.registry.isRunning "e" = false ∧
      m.held? 2 = some "d" ∧ (m.task? 2).map Task.isCancelled = some false ∧
      (m.performSingle slowDevice "d" (Step.new "wait" (.wait (some 1)))).2 =
        some (.refused (.alreadyRunning "d")) := by
  intro m
  have horderly : m.Orderly slowDevice := orderly_play slowDevice (.opening .empty) contended
  refine ⟨horderly, rfl, rfl, rfl, rfl, rfl, rfl, ?_⟩
  exact (horderly.performSingle_eq_refused_iff ..).mpr ⟨rfl, rfl⟩

end Ensemble

end DeviceFlow.Rehearsal
