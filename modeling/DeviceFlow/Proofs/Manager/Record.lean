import DeviceFlow.Proofs.Manager.Turn
import DeviceFlow.Proofs.Trace.Keeps

/-!
# The records that moves leave

A run ends with a record of its own, or with an abnormal one, and a single step with none. So a
move changes the records only when it ends a run, and only that of the run's device.
-/

namespace DeviceFlow

/-- What a device frees leaves of the records. -/
theorem Registry.lastRecord?_release (r : Registry) (device other : String)
    (record : Option RunRecord) :
    (r.release device record).lastRecord? other =
      if device = other then record.or (r.lastRecord? other) else r.lastRecord? other := by
  unfold release lastRecord?
  cases record with
  | none => simp
  | some record =>
    dsimp only
    rw [Dict.get?_insert, Option.some_or]

end DeviceFlow

namespace DeviceFlow.Rehearsal

open Plan

/-- An ending is one of a run, or else one of a single step. -/
def Ending.Of (isRun : Bool) : Ending → Prop
  | .ran _ => isRun = true
  | .performed _ => isRun = false

/-- Whatever a task in this state comes to, it ends as a run or else as a single step does; and
    only a single step applies for its device, or is refused it. -/
def TaskState.Fits (isRun : Bool) : TaskState → Prop
  | .applying plan => isRun = false ∧ plan.Gives (Ending.Of isRun)
  | .ready plan => plan.Gives (Ending.Of isRun)
  | .busy _ resume => ∀ scene, (resume scene).2.Gives (Ending.Of isRun)
  | .pausing _ resume => ∀ whole, (resume whole).Gives (Ending.Of isRun)
  | .over (.ended e) => e.Of isRun
  | .over (.refused _) => isRun = false
  | .over .aborted | .over .broken => True

/-- A plan that goes on as far as it can still ends as it has to. -/
theorem Cast.fits_advance (cast : Cast) (device : String) (isCancelled isRun : Bool)
    {plan : Plan Ending} (h : plan.Gives (Ending.Of isRun)) (scene : Scene) :
    (Task.stateAfter (cast.advance device isCancelled plan scene).2).Fits isRun := by
  induction plan generalizing scene with
  | done e => exact h
  | ask q next ih =>
    have hnext : ∀ answer, (next answer).Gives (Ending.Of isRun) := (keeps_ask.mp h).2
    unfold Cast.advance
    split
    rename_i scene' turn _
    split
    · trivial
    · cases turn with
      | now a => exact ih a (hnext a) scene'
      | later ms finish => exact fun scene => hnext _
      | pause ms finish =>
        dsimp only
        split
        · exact ih _ (hnext _) scene'
        · split
          · exact ih _ (hnext _) scene'
          · exact fun whole => hnext _

namespace Ensemble

variable {cast : Cast} {m : Ensemble}

/-- Every task ends as a run or as a single step, whichever it is. -/
def Fits (m : Ensemble) : Prop := ∀ n t, m.task? n = some t → t.state.Fits t.admitted.isSome

/-- The record that a task leaves when it is over now: its own if it is a run that has returned,
    and an abnormal one if it is a run that has not. -/
def recordOf? (m : Ensemble) (t : Task) (c : Completion) : Option RunRecord :=
  match t.admitted, c with
  | some _, .ended (.ran record) => some record
  | some (w, admittedMs), .aborted | some (w, admittedMs), .broken =>
    some (m.abnormalRecord w admittedMs)
  | _, _ => none

theorem recordOf?_of_single {t : Task} (h : t.admitted = none) (c : Completion) :
    m.recordOf? t c = none := by
  unfold recordOf?
  rw [h]

theorem lastRecord?_free (t : Task) (c : Completion) (device : String) :
    (m.free t c).registry.lastRecord? device =
      if t.isHolder = true ∧ t.device = device then
        (m.recordOf? t c).or (m.registry.lastRecord? device)
      else m.registry.lastRecord? device := by
  unfold free recordOf?
  cases t.isHolder with
  | false => simp
  | true =>
    simp only [if_true, true_and]
    cases t.admitted with
    | none => exact Registry.lastRecord?_release ..
    | some admission =>
      obtain ⟨w, admittedMs⟩ := admission
      cases c with
      | ended e =>
        cases e with
        | ran record => exact Registry.lastRecord?_release ..
        | performed outcome => exact Registry.lastRecord?_release ..
      | refused cause => exact Registry.lastRecord?_release ..
      | aborted => exact Registry.lastRecord?_release ..
      | broken => exact Registry.lastRecord?_release ..

/-- A task that settles leaves a record when it is over. -/
theorem lastRecord?_settle (n : Nat) (t : Task) (state : TaskState) (device : String) :
    (m.settle n t state).registry.lastRecord? device =
      match state with
      | .over c =>
        if t.isHolder = true ∧ t.device = device then
          (m.recordOf? t c).or (m.registry.lastRecord? device)
        else m.registry.lastRecord? device
      | _ => m.registry.lastRecord? device := by
  unfold settle
  cases state with
  | «over» c => exact lastRecord?_free t c device
  | applying | ready | busy | pausing => rfl

@[simp] theorem nowMs_settle (n : Nat) (t : Task) (state : TaskState) :
    (m.settle n t state).scene.nowMs = m.scene.nowMs := by
  unfold settle
  cases state with
  | «over» c =>
    dsimp only
    unfold free
    split
    · split
      · rfl
      · rfl
      · rfl
      · rfl
    · rfl
  | applying | ready | busy | pausing => rfl

/-- What a move does to the tasks and the records: nothing but to add a task, or to mark some;
    or one task, which is not over, settles in a new state. -/
inductive Changes (m : Ensemble) : Ensemble → Prop where
  | calm {m' : Ensemble}
      (hrecords : ∀ device, m'.registry.lastRecord? device = m.registry.lastRecord? device)
      (hold : ∀ k t, m.task? k = some t → ∃ t', m'.task? k = some t' ∧ t'.device = t.device ∧
        t'.admitted = t.admitted ∧ t'.state = t.state)
      (hnew : ∀ k t', m.task? k = none → m'.task? k = some t' →
        t'.state.isOver = false ∧ t'.state.Fits t'.admitted.isSome) : Changes m m'
  | settled {n : Nat} {t : Task} (before state : TaskState) (scene : Scene) (registry : Registry)
      (ht : m.task? n = some t) (hover : t.state.isOver = false)
      (hfits : state.Fits t.admitted.isSome)
      (hrecords : ∀ device, registry.lastRecord? device = m.registry.lastRecord? device)
      (hholder : (t.inState before).isHolder = true ∨ t.admitted = none) :
      Changes m ({ m with scene := scene, registry := registry }.settle n (t.inState before) state)

theorem Changes.refl (m : Ensemble) : Changes m m := by
  refine .calm (fun _ => rfl) (fun k t ht => ⟨t, ht, rfl, rfl, rfl⟩) ?_
  intro k t' hnone ht'
  rw [hnone] at ht'
  cases ht'

/-- Tasks that are only marked stay in their states. -/
theorem Changes.marked {m' : Ensemble} (hregistry : m'.registry = m.registry)
    (htasks : ∀ k, m'.task? k = m.task? k ∨ m'.task? k = (m.task? k).map Task.cancelled ∨
      m'.task? k = (m.task? k).map Task.aborted) : Changes m m' := by
  refine .calm (fun device => by rw [hregistry]) (fun k t ht => ?_) fun k t' hnone ht' => ?_
  · rcases htasks k with h | h | h
    · exact ⟨t, by rw [h, ht], rfl, rfl, rfl⟩
    · exact ⟨t.cancelled, by rw [h, ht, Option.map_some], rfl, rfl, rfl⟩
    · exact ⟨t.aborted, by rw [h, ht, Option.map_some], rfl, rfl, rfl⟩
  · rcases htasks k with h | h | h
    · simp [h, hnone] at ht'
    · simp [h, hnone] at ht'
    · simp [h, hnone] at ht'

/-- A new task begins. -/
theorem Changes.added {m' : Ensemble} {t : Task}
    (hrecords : ∀ device, m'.registry.lastRecord? device = m.registry.lastRecord? device)
    (htask : ∀ k, m'.task? k = if k = m.tasks.length then some t else m.task? k)
    (hover : t.state.isOver = false) (hfits : t.state.Fits t.admitted.isSome) :
    Changes m m' := by
  refine .calm hrecords (fun k u hu => ⟨u, ?_, rfl, rfl, rfl⟩) fun k t' hnone ht' => ?_
  · have hk : k ≠ m.tasks.length := by
      rintro rfl
      rw [task?_length] at hu
      cases hu
    rw [htask, if_neg hk, hu]
  · rw [htask] at ht'
    split at ht'
    · cases ht'
      exact ⟨hover, hfits⟩
    · rw [hnone] at ht'
      cases ht'

/-- A holder settles in a state that fits. -/
theorem Changes.ofHolder {n : Nat} {t : Task} (state : TaskState) (ht : m.task? n = some t)
    (hholder : t.isHolder = true) (hfits : state.Fits t.admitted.isSome) (scene : Scene) :
    Changes m ({ m with scene := scene }.settle n t state) := by
  rw [Task.isHolder_eq, Bool.and_eq_true] at hholder
  refine .settled t.state state scene m.registry ht (by simpa using hholder.2) hfits
    (fun _ => rfl) (.inl ?_)
  rw [Task.isHolder_eq, Bool.and_eq_true]
  exact hholder

theorem Changes.ofTurn (hfits : m.Fits) {n : Nat} {m' : Ensemble} (h : Turns cast m n m') :
    Changes m m' := by
  cases h with
  | idle => exact .refl m
  | @aborted t ht hover =>
    cases hholder : t.isHolder with
    | true => exact .ofHolder (.over .aborted) ht hholder trivial m.scene
    | false =>
      -- Only a single step is not over and holds no device.
      refine .settled t.state _ m.scene m.registry ht hover trivial (fun _ => rfl) (.inr ?_)
      have hstate := hfits n t ht
      rw [Task.isHolder_eq, hover] at hholder
      cases hcase : t.state with
      | applying plan =>
        rw [hcase] at hstate
        simpa using hstate.1
      | «over» | ready | busy | pausing => simp [hcase, TaskState.isApplying] at hholder
  | @refused t plan ht hstate =>
    have hsingle := hfits n t ht
    rw [hstate] at hsingle
    refine .settled t.state _ m.scene m.registry ht (by simp [hstate, TaskState.isOver])
      hsingle.1 (fun _ => rfl) (.inr ?_)
    simpa using hsingle.1
  | @admitted t plan ht hstate hfree =>
    have hsingle := hfits n t ht
    rw [hstate] at hsingle
    exact .settled (.ready plan) _ _ (m.registry.claimed t.device n) ht
      (by simp [hstate, TaskState.isOver])
      (cast.fits_advance t.device t.isCancelled _ hsingle.2 m.scene) (fun _ => rfl) (.inl rfl)
  | @ready t plan ht hstate =>
    have hplan := hfits n t ht
    rw [hstate] at hplan
    exact .ofHolder _ ht (by simp [Task.isHolder, hstate]) (cast.fits_advance _ _ _ hplan _) _
  | @answered t untilMs resume ht hstate =>
    have hplan := hfits n t ht
    rw [hstate] at hplan
    exact .ofHolder _ ht (by simp [Task.isHolder, hstate])
      (cast.fits_advance _ _ _ (hplan m.scene) _) _
  | @rested t untilMs resume whole ht hstate =>
    have hplan := hfits n t ht
    rw [hstate] at hplan
    exact .ofHolder _ ht (by simp [Task.isHolder, hstate])
      (cast.fits_advance _ _ _ (hplan whole) _) _

theorem changes_apply (hfits : m.Fits) (cast : Cast) (move : Move) :
    Changes m (move.apply cast m) := by
  cases move with
  | start device w vars =>
    cases hrunning : m.registry.isRunning device with
    | true =>
      rw [Move.apply, start_of_isRunning hrunning]
      exact .refl m
    | false =>
      obtain ⟨m', hstart, _, hregistry, htask⟩ := start_eq_ok cast hrunning w vars
      rw [Move.apply, hstart]
      refine .added (fun device => by rw [hregistry]; rfl) htask rfl ?_
      exact keeps_bind.mpr ((gives_true _).imp fun _ _ => rfl)
  | single device s =>
    refine .added (fun _ => rfl) (task?_add _) rfl ⟨rfl, ?_⟩
    exact keeps_bind.mpr ((gives_true _).imp fun _ _ => rfl)
  | stop device =>
    refine .marked (registry_stop m device) fun k => ?_
    rw [Move.apply, task?_stop]
    split
    · exact .inr (.inl rfl)
    · exact .inl rfl
  | stopAll =>
    refine .marked (registry_stopAll m) fun k => ?_
    rw [Move.apply, task?_stopAll]
    split
    · exact .inr (.inl rfl)
    · exact .inl rfl
  | abort n => exact .marked (registry_abort n) fun k => (task?_abort n k).imp_right .inr
  | turn n => exact .ofTurn hfits (turns_turn cast m n)
  | answer n answers =>
    dsimp only [Move.apply]
    split
    · rename_i t ht
      split
      · rename_i q next hstate
        have hplan : TaskState.Fits t.admitted.isSome (.ready (.ask q next)) :=
          hstate ▸ hfits n t ht
        exact .ofHolder (.ready (next (answers q))) ht (by simp [Task.isHolder, hstate])
          (hplan.2 (answers q)) m.scene
      · exact .refl m
    · exact .refl m
  | breakDown n =>
    dsimp only [Move.apply]
    split
    · rename_i t ht
      split
      · rename_i hholder
        exact .ofHolder (.over .broken) ht hholder trivial m.scene
      · exact .refl m
    · exact .refl m
  | change scene queue sleepers => exact .marked rfl fun k => .inl rfl

end Ensemble

end DeviceFlow.Rehearsal
