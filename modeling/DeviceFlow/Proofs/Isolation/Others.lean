import DeviceFlow.Proofs.Isolation.View
import DeviceFlow.Proofs.Manager.LastRecord

/-!
# What others do

A task that holds a device keeps its state, and its device sees nothing, in all that happens to
other tasks: these have other devices, or wait for this one.
-/

namespace DeviceFlow.Rehearsal.Ensemble

variable {cast : Cast} {m : Ensemble} {device : String} {n : Nat}

@[simp] theorem scene_cancel (m : Ensemble) (n : Nat) : (m.cancel n).scene = m.scene := by
  unfold cancel
  split
  · rfl
  · dsimp only
    split
    · rw [scene_enqueue]
      rfl
    · rfl

@[simp] theorem scene_abort (m : Ensemble) (n : Nat) : (m.abort n).scene = m.scene := by
  unfold abort
  split
  · rfl
  · rw [scene_enqueue]
    rfl

theorem alike_stop (m : Ensemble) (device other : String) :
    m.scene.Alike device (m.stop other).1.scene := by
  unfold stop
  split
  · exact .refl device m.scene
  · dsimp only
    rw [scene_cancel]
    exact .keep device m.scene _

/-- A task that settles only leaves lines in the log. -/
theorem alike_settle (device : String) (n : Nat) (t : Task) (state : TaskState) :
    m.scene.Alike device (m.settle n t state).scene := by
  unfold settle
  cases state with
  | «over» c =>
    dsimp only
    unfold free
    split
    · split
      · exact .refl device m.scene
      · exact .keep device m.scene _
      · exact .keep device m.scene _
      · exact .refl device m.scene
    · exact .refl device m.scene
  | applying | ready | busy | pausing => exact .refl device m.scene

/-- A task that goes on is not seen by other devices. -/
theorem alike_goOn (hserial : cast.AnswersPerSerial) {t : Task} (hdevice : device ≠ t.device)
    (plan : Plan Ending) : m.scene.Alike device (m.goOn cast n t plan).scene :=
  (hserial.alike_advance hdevice t.isCancelled plan m.scene).trans
    (alike_settle (m := { m with scene := _ }) ..)

/-- A new state of a task is as good as its old one in all that moves keep. -/
theorem forall_task_settle {P : String → TaskState → Prop} {t₀ : Task} {state : TaskState}
    (h : ∀ k t, m.task? k = some t → P t.device t.state) (ht : m.task? n = some t₀)
    (hstate : P t₀.device state) (t : Task) :
    ∀ k t', (m.settle n t state).task? k = some t' → P t'.device t'.state := by
  intro k t' ht'
  rw [task?_settle] at ht'
  split at ht'
  · rename_i hk
    rw [← hk, ht] at ht'
    cases ht'
    exact hstate
  · exact h k t' ht'

/-- What holds of every state that a plan or an end leads to holds of all tasks. -/
theorem forall_task_apply {P : String → TaskState → Prop}
    (happlying : ∀ device plan, P device (.applying plan))
    (hready : ∀ device plan, P device (.ready plan))
    (hover : ∀ device c, P device (.over c))
    (hadvance : ∀ device isCancelled plan scene,
      P device (Task.stateAfter (cast.advance device isCancelled plan scene).2))
    (h : ∀ k t, m.task? k = some t → P t.device t.state) (move : Move) :
    ∀ k t, (move.apply cast m).task? k = some t → P t.device t.state := by
  have hmarked : ∀ {m' : Ensemble}, (∀ k, m'.task? k = m.task? k ∨
      m'.task? k = (m.task? k).map Task.cancelled ∨ m'.task? k = (m.task? k).map Task.aborted) →
      ∀ k t, m'.task? k = some t → P t.device t.state := by
    intro m' htasks k t ht
    rcases htasks k with hsame | hsame | hsame
    · exact h k t (hsame ▸ ht)
    · rw [hsame] at ht
      obtain ⟨u, hu, rfl⟩ := Option.map_eq_some_iff.mp ht
      exact h k u hu
    · rw [hsame] at ht
      obtain ⟨u, hu, rfl⟩ := Option.map_eq_some_iff.mp ht
      exact h k u hu
  have hadded : ∀ {m' : Ensemble} {u : Task}, P u.device u.state →
      (∀ k, m'.task? k = if k = m.tasks.length then some u else m.task? k) →
      ∀ k t, m'.task? k = some t → P t.device t.state := by
    intro m' u hu htasks k t ht
    rw [htasks] at ht
    split at ht
    · cases ht
      exact hu
    · exact h k t ht
  cases move with
  | start device w vars =>
    cases hrunning : m.registry.isRunning device with
    | true =>
      rw [Move.apply, start_of_isRunning hrunning]
      exact h
    | false =>
      obtain ⟨m', hstart, _, _, htask⟩ := start_eq_ok cast hrunning w vars
      rw [Move.apply, hstart]
      exact hadded (hready ..) htask
  | single device s => exact hadded (happlying ..) (task?_add _)
  | stop device =>
    refine hmarked fun k => ?_
    rw [Move.apply, task?_stop]
    split
    · exact .inr (.inl rfl)
    · exact .inl rfl
  | stopAll =>
    refine hmarked fun k => ?_
    rw [Move.apply, task?_stopAll]
    split
    · exact .inr (.inl rfl)
    · exact .inl rfl
  | abort n => exact hmarked fun k => (task?_abort n k).imp_right .inr
  | turn n =>
    have hgoOn : ∀ (registry : Registry) (scene : Scene) (t u : Task) (plan : Plan Ending),
        m.task? n = some t → u.device = t.device →
        ∀ k t', (({ m with registry := registry, scene := scene } : Ensemble).goOn cast n u
          plan).task? k = some t' → P t'.device t'.state := by
      intro registry scene t u plan ht hdevice
      exact forall_task_settle (m := { m with registry := registry, scene := _ }) h ht
        (hdevice ▸ hadvance ..) u
    have hturns := turns_turn cast m n
    dsimp only [Move.apply]
    generalize m.turn cast n = m' at hturns ⊢
    cases hturns with
    | idle => exact h
    | aborted ht => exact forall_task_settle h ht (hover ..) _
    | refused ht => exact forall_task_settle h ht (hover ..) _
    | admitted ht => exact hgoOn _ _ _ _ _ ht rfl
    | ready ht => exact hgoOn _ _ _ _ _ ht rfl
    | answered ht => exact hgoOn _ _ _ _ _ ht rfl
    | rested whole ht => exact hgoOn _ _ _ _ _ ht rfl
  | answer n answers =>
    dsimp only [Move.apply]
    split
    · rename_i t ht
      split
      · exact forall_task_settle h ht (hready ..) t
      · exact h
    · exact h
  | breakDown n =>
    dsimp only [Move.apply]
    split
    · rename_i t ht
      split
      · exact forall_task_settle h ht (hover ..) t
      · exact h
    · exact h
  | change scene queue sleepers => exact h

/-- What each task waits for concerns only its device. -/
def IsLocal (m : Ensemble) : Prop :=
  ∀ k t, m.task? k = some t → ∀ untilMs resume, t.state = .busy untilMs resume →
    Cast.Local t.device resume

theorem isLocal_opening (scene : Scene) : (opening scene).IsLocal := by
  intro n t ht
  simp [opening, task?] at ht

theorem IsLocal.apply (h : m.IsLocal) (hserial : cast.AnswersPerSerial) (move : Move) :
    (move.apply cast m).IsLocal := by
  refine forall_task_apply (P := fun device state => ∀ untilMs resume,
    state = .busy untilMs resume → Cast.Local device resume) ?_ ?_ ?_ ?_ h move
  · exact fun _ _ _ _ hstate => by cases hstate
  · exact fun _ _ _ _ hstate => by cases hstate
  · exact fun _ _ _ _ hstate => by cases hstate
  · intro device isCancelled plan scene untilMs resume hstate
    cases hpace : (cast.advance device isCancelled plan scene).2 with
    | busy ms later =>
      rw [hpace] at hstate
      cases hstate
      exact hserial.local_resume hpace
    | done | broken | pausing =>
      rw [hpace] at hstate
      cases hstate

theorem IsLocal.play (h : m.IsLocal) (hserial : cast.AnswersPerSerial) (moves : List Move) :
    (m.play cast moves).IsLocal := by
  induction moves generalizing m with
  | nil => exact h
  | cons move moves ih => exact ih (h.apply hserial move)

/-- A task that gets its turn is not seen by a device that another one holds. -/
theorem Turns.alike (hserial : cast.AnswersPerSerial) (hagrees : m.Agrees) (hlocal : m.IsLocal)
    {k : Nat} {m' : Ensemble} (h : Turns cast m k m') (hheld : m.held? n = some device)
    (hk : k ≠ n) : m.scene.Alike device m'.scene := by
  have hother : ∀ {t : Task}, m.task? k = some t → t.isHolder = true → device ≠ t.device := by
    rintro t ht hholder rfl
    have hsame : m.held? k = some t.device := by
      rw [held?_eq_of_task? ht, Task.held?_of_isHolder hholder]
    exact hk (hagrees.exclusive hsame hheld)
  cases h with
  | idle => exact .refl device m.scene
  | aborted | refused => exact alike_settle ..
  | admitted ht hstate hfree =>
    -- A single step gets its device only if nobody holds it, so it is not this one.
    refine alike_goOn (m := { m with registry := m.registry.claimed _ k }) hserial ?_ _
    rintro rfl
    have hrunning := (hagrees.isRunning_iff _).mpr ⟨n, hheld⟩
    exact absurd (hrunning.symm.trans hfree) (by decide)
  | ready ht hstate =>
    exact alike_goOn hserial (hother ht (by simp [Task.isHolder, hstate])) _
  | @answered t untilMs resume ht hstate =>
    have hdevice := hother ht (by simp [Task.isHolder, hstate])
    exact ((hlocal k t ht untilMs resume hstate).others m.scene hdevice).trans
      (alike_goOn (m := { m with scene := _ }) hserial hdevice _)
  | rested whole ht hstate =>
    exact alike_goOn hserial (hother ht (by simp [Task.isHolder, hstate])) _

/-- A move concerns a task on a device when the task moves or is moved, when the holder of the
    device is told to stop, or when the device sees something of it. -/
def Concerns (m : Ensemble) (n : Nat) (device : String) : Move → Prop
  | .start .. | .single .. => False
  | .stop other => other = device
  | .stopAll => True
  | .abort k | .breakDown k | .answer k _ | .turn k => k = n
  | .change scene .. => ¬ m.scene.Alike device scene

theorem task?_abort_of_ne {k : Nat} (hk : k ≠ n) : (m.abort n).task? k = m.task? k := by
  unfold abort
  split
  · rfl
  · rw [task?_enqueue, task?_modify, if_neg (Ne.symm hk)]

/-- A task that holds its device stays as it is in a move that does not concern it, and its device
    sees nothing of the move. -/
theorem unseen_apply (hserial : cast.AnswersPerSerial) (hagrees : m.Agrees) (hlocal : m.IsLocal)
    (hheld : m.held? n = some device) {move : Move} (hmove : ¬ m.Concerns n device move) :
    (move.apply cast m).task? n = m.task? n ∧
      m.scene.Alike device (move.apply cast m).scene := by
  have hold : n ≠ m.tasks.length := by
    rintro rfl
    simp [held?_length] at hheld
  cases move with
  | start other w vars =>
    cases hrunning : m.registry.isRunning other with
    | true =>
      rw [Move.apply, start_of_isRunning hrunning]
      exact ⟨rfl, .refl device m.scene⟩
    | false =>
      obtain ⟨m', hstart, hscene, _, htask⟩ := start_eq_ok cast hrunning w vars
      rw [Move.apply, hstart]
      dsimp only
      rw [htask, if_neg hold, hscene]
      exact ⟨rfl, .keep device m.scene _⟩
  | single other s => exact ⟨(task?_add _ n).trans (if_neg hold), .refl device m.scene⟩
  | stop other =>
    refine ⟨?_, m.alike_stop device other⟩
    rw [Move.apply, task?_stop, if_neg]
    intro hholder
    have hsame := (hagrees other n).mp hholder
    rw [hheld] at hsame
    exact hmove (Option.some.inj hsame).symm
  | stopAll => exact absurd trivial hmove
  | abort k =>
    rw [Move.apply, scene_abort]
    exact ⟨task?_abort_of_ne (Ne.symm hmove), .refl device m.scene⟩
  | turn k =>
    have hturns := turns_turn cast m k
    exact ⟨hturns.task?_of_ne (Ne.symm hmove), hturns.alike hserial hagrees hlocal hheld hmove⟩
  | answer k answers =>
    dsimp only [Move.apply]
    split
    · split
      · have hk : k ≠ n := hmove
        rw [task?_settle, if_neg hk]
        exact ⟨rfl, alike_settle ..⟩
      · exact ⟨rfl, .refl device m.scene⟩
    · exact ⟨rfl, .refl device m.scene⟩
  | breakDown k =>
    refine ⟨task?_breakDown_of_ne cast m (Ne.symm hmove), ?_⟩
    dsimp only [Move.apply]
    split
    · split
      · exact alike_settle ..
      · exact .refl device m.scene
    · exact .refl device m.scene
  | change scene queue sleepers => exact ⟨rfl, Classical.not_not.mp hmove⟩

end DeviceFlow.Rehearsal.Ensemble
