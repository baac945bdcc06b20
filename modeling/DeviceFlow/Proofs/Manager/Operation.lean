import DeviceFlow.Rehearsal.Ensemble

/-!
# What the operations on an ensemble change

An ensemble is seen here through its tasks and through the holders of devices. Each operation
changes at most one task, and at most the holder of this task's device.
-/

namespace DeviceFlow

namespace Registry

/-- The registry after a task has got a device. -/
def claimed (r : Registry) (device : String) (n : Nat) : Registry :=
  { r with holders := r.holders.insert device n }

theorem holder?_claimed (r : Registry) (device other : String) (n : Nat) :
    (r.claimed device n).holder? other = if device = other then some n else r.holder? other :=
  Dict.get?_insert ..

theorem isRunning_eq_true_iff {r : Registry} {device : String} :
    r.isRunning device = true ↔ ∃ n, r.holder? device = some n :=
  Option.isSome_iff_exists

theorem isRunning_eq_false_iff {r : Registry} {device : String} :
    r.isRunning device = false ↔ r.holder? device = none := by
  unfold isRunning Dict.contains
  rw [Option.isSome_eq_false_iff, Option.isNone_iff_eq_none]
  rfl

end Registry

end DeviceFlow

namespace DeviceFlow.Rehearsal

namespace TaskState

/-- Whether a task in this state has still to claim its device. -/
def isApplying : TaskState → Bool
  | .applying _ => true
  | _ => false

/-- Whether a task in this state has ended. -/
def isOver : TaskState → Bool
  | .over _ => true
  | _ => false

theorem exists_of_isOver {state : TaskState} (h : state.isOver = true) :
    ∃ c, state = .over c := by
  cases state with
  | «over» c => exact ⟨c, rfl⟩
  | applying | ready | busy | pausing => cases h

end TaskState

namespace Task

theorem isHolder_eq (t : Task) : t.isHolder = (!t.state.isApplying && !t.state.isOver) := by
  unfold isHolder TaskState.isApplying TaskState.isOver
  cases t.state <;> rfl

/-- A task that goes on after a claim, or a wait, is in one of the states after a claim. -/
theorem isApplying_stateAfter (pace : Pace Ending) : (stateAfter pace).isApplying = false := by
  cases pace <;> rfl

/-- The task when it has been cancelled. -/
def cancelled (t : Task) : Task := { t with isCancelled := true }

/-- The task when it has been aborted. -/
def aborted (t : Task) : Task := { t with isAborted := true }

/-- The task in another state. -/
def inState (t : Task) (state : TaskState) : Task := { t with state := state }

/-- The device that the task holds. -/
def held? (t : Task) : Option String := if t.isHolder then some t.device else none

theorem held?_of_isHolder {t : Task} (h : t.isHolder = true) : t.held? = some t.device := by
  unfold held?
  rw [h]
  rfl

theorem held?_of_not_isHolder {t : Task} (h : t.isHolder = false) : t.held? = none := by
  unfold held?
  rw [h]
  rfl

theorem held?_eq_some_iff {t : Task} {device : String} :
    t.held? = some device ↔ t.isHolder = true ∧ t.device = device := by
  unfold held?
  cases t.isHolder with
  | true => simp
  | false => simp

/-- A task whose state is after its claim holds its device until it is over. -/
theorem held?_inState (t : Task) {state : TaskState} (h : state.isApplying = false) :
    (t.inState state).held? = if state.isOver then none else some t.device := by
  unfold held?
  rw [isHolder_eq]
  unfold inState
  cases hover : state.isOver with
  | true => simp
  | false => simp [h]

end Task

namespace Ensemble

variable {m : Ensemble}

theorem task?_modify (n k : Nat) (f : Task → Task) :
    (m.modify n f).task? k = if n = k then (m.task? k).map f else m.task? k := by
  unfold task? modify
  rw [List.getElem?_modify]
  by_cases h : n = k
  · simp [h]
  · simp [h]

theorem task?_add (t : Task) (k : Nat) :
    (m.add t).task? k = if k = m.tasks.length then some t else m.task? k := by
  unfold task? add
  rw [List.getElem?_append, List.getElem?_singleton]
  by_cases hlt : k < m.tasks.length
  · simp [hlt, Nat.ne_of_lt hlt]
  · have hnone : m.tasks[k]? = none := List.getElem?_eq_none (Nat.le_of_not_lt hlt)
    by_cases heq : k = m.tasks.length
    · simp [heq]
    · have hsub : k - m.tasks.length ≠ 0 := by omega
      simp [hlt, heq, hsub]

theorem task?_length : m.task? m.tasks.length = none :=
  List.getElem?_eq_none (Nat.le_refl _)

@[simp] theorem task?_keep (records : List LogRecord) (k : Nat) :
    (m.keep records).task? k = m.task? k := rfl

@[simp] theorem registry_keep (records : List LogRecord) :
    (m.keep records).registry = m.registry := rfl

@[simp] theorem task?_enqueue (n k : Nat) : (m.enqueue n).task? k = m.task? k := by
  unfold enqueue
  split
  · rfl
  · rfl

@[simp] theorem registry_enqueue (n : Nat) : (m.enqueue n).registry = m.registry := by
  unfold enqueue
  split
  · rfl
  · rfl

@[simp] theorem scene_enqueue (n : Nat) : (m.enqueue n).scene = m.scene := by
  unfold enqueue
  split
  · rfl
  · rfl

/-- A cancellation reaches one task, and leaves the registry alone. -/
theorem task?_cancel (n k : Nat) :
    (m.cancel n).task? k = if n = k then (m.task? k).map Task.cancelled else m.task? k := by
  unfold cancel
  cases hn : m.task? n with
  | none =>
    by_cases h : n = k
    · subst h
      simp [hn]
    · simp [h]
  | some t =>
    dsimp only
    split
    · rw [task?_enqueue, task?_modify]
      rfl
    · exact task?_modify ..

@[simp] theorem registry_cancel (n : Nat) : (m.cancel n).registry = m.registry := by
  unfold cancel
  split
  · rfl
  · dsimp only
    split
    · rw [registry_enqueue]
      rfl
    · rfl

/-- Cancellations reach the tasks that they are meant for. -/
theorem task?_cancelAll (es : List (String × Nat)) (m : Ensemble) (k : Nat) :
    (es.foldl (fun m e => m.cancel e.2) m).task? k =
      if k ∈ es.map Prod.snd then (m.task? k).map Task.cancelled else m.task? k := by
  induction es generalizing m with
  | nil => simp
  | cons e es ih =>
    rw [List.foldl_cons, ih, task?_cancel, List.map_cons]
    by_cases hk : e.2 = k
    · rw [if_pos hk, hk, if_pos (List.mem_cons_self)]
      cases m.task? k with
      | none => simp
      | some t => simp [Task.cancelled]
    · rw [if_neg hk]
      have hmem : k ∈ e.2 :: es.map Prod.snd ↔ k ∈ es.map Prod.snd := by
        rw [List.mem_cons, or_iff_right (Ne.symm hk)]
      simp only [hmem]

theorem registry_cancelAll (es : List (String × Nat)) (m : Ensemble) :
    (es.foldl (fun m e => m.cancel e.2) m).registry = m.registry := by
  induction es generalizing m with
  | nil => rfl
  | cons e es ih => rw [List.foldl_cons, ih, registry_cancel]

/-- An abort marks one task, and leaves the registry alone. -/
theorem task?_abort (n k : Nat) :
    (m.abort n).task? k = m.task? k ∨ (m.abort n).task? k = (m.task? k).map Task.aborted := by
  unfold abort
  split
  · exact .inl rfl
  · rw [task?_enqueue, task?_modify]
    split
    · exact .inr rfl
    · exact .inl rfl

@[simp] theorem registry_abort (n : Nat) : (m.abort n).registry = m.registry := by
  unfold abort
  split
  · rfl
  · rw [registry_enqueue]
    rfl

@[simp] theorem task?_free (t : Task) (c : Completion) (k : Nat) :
    (m.free t c).task? k = m.task? k := by
  unfold free
  split
  · split
    · rfl
    · rfl
    · rfl
    · rfl
  · rfl

/-- A holder that is over frees its device and no other; a task that holds none frees none. -/
theorem holder?_free (t : Task) (c : Completion) (device : String) :
    (m.free t c).registry.holder? device =
      if t.isHolder = true ∧ t.device = device then none else m.registry.holder? device := by
  unfold free
  cases t.isHolder with
  | false => simp
  | true =>
    simp only [if_true, true_and]
    split
    · exact Registry.holder?_release ..
    · exact Registry.holder?_release ..
    · exact Registry.holder?_release ..
    · exact Registry.holder?_release ..

theorem registry_free_of_not_isHolder {t : Task} (h : t.isHolder = false) (c : Completion) :
    (m.free t c).registry = m.registry := by
  unfold free
  simp [h]

/-- A task that settles comes to its new state, and no other task changes. -/
theorem task?_settle (n k : Nat) (t : Task) (state : TaskState) :
    (m.settle n t state).task? k =
      if n = k then (m.task? k).map (·.inState state) else m.task? k := by
  unfold settle
  cases state with
  | «over» c =>
    rw [task?_free]
    exact task?_modify ..
  | applying | ready | busy | pausing => exact task?_modify ..

theorem holder?_settle (n : Nat) (t : Task) (state : TaskState) (device : String) :
    (m.settle n t state).registry.holder? device =
      if state.isOver = true ∧ t.isHolder = true ∧ t.device = device then none
      else m.registry.holder? device := by
  unfold settle
  cases state with
  | «over» c =>
    simp only [TaskState.isOver, true_and]
    exact holder?_free ..
  | applying | ready | busy | pausing => simp [TaskState.isOver, modify]

theorem registry_settle_of_not_isHolder {t : Task} (h : t.isHolder = false) (n : Nat)
    (state : TaskState) : (m.settle n t state).registry = m.registry := by
  unfold settle
  cases state with
  | «over» c => exact registry_free_of_not_isHolder h c
  | applying | ready | busy | pausing => rfl

end Ensemble

end DeviceFlow.Rehearsal
