import DeviceFlow.Proofs.Manager.Schedule

/-!
# Calls of the manager

A caller starts runs and single steps, stops and aborts them, waits for them, or lets time pass.
Each call is one move at most, and what the schedule does after it.
-/

namespace DeviceFlow.Rehearsal

/-- What a caller may do with the manager. -/
inductive Call where
  | start (device : String) (w : Workflow) (vars : Variables)
  | stop (device : String)
  | stopAll
  | abort (n : Nat)
  /-- A single step that the caller waits for. -/
  | performSingle (device : String) (s : Step)
  /-- A single step that nobody waits for. -/
  | startSingle (device : String) (s : Step)
  | elapse (ms : Nat)
  | await (n : Nat)

namespace Call

/-- What comes of a call. -/
def apply (cast : Cast) (m : Ensemble) : Call → Ensemble
  | .start device w vars =>
    match m.start cast device w vars with
    | .ok (m, _) => m
    | .error _ => m
  | .stop device => (m.stop device).1
  | .stopAll => m.stopAll.1
  | .abort n => m.abort n
  | .performSingle device s => (m.performSingle cast device s).1
  | .startSingle device s => (m.startSingle cast device s).1
  | .elapse ms => m.elapse cast ms
  | .await n => (m.await cast n).1

/-- The move that a call begins with. -/
def move? : Call → Option Move
  | .start device w vars => some (.start device w vars)
  | .stop device => some (.stop device)
  | .stopAll => some .stopAll
  | .abort n => some (.abort n)
  | .performSingle device s | .startSingle device s => some (.single device s)
  | .elapse _ | .await _ => none

/-- The ensemble after the move that a call begins with. -/
def begun (cast : Cast) (m : Ensemble) (call : Call) : Ensemble :=
  match call.move? with
  | some move => move.apply cast m
  | none => m

/-- A call is of a task that there is, and there are not too many tasks for the schedule. -/
structure IsProper (cast : Cast) (m : Ensemble) (call : Call) : Prop where
  count : (call.begun cast m).tasks.length ≤ Ensemble.maxTurns
  abort : ∀ n, call = .abort n → (m.task? n).isSome = true

end Call

namespace Ensemble

/-- Calls are made one after the other. -/
def callAll (cast : Cast) (m : Ensemble) (calls : List Call) : Ensemble :=
  calls.foldl (Call.apply cast) m

variable {m : Ensemble} {n : Nat}

theorem Queued.modify {now : List Nat} (h : m.Queued now) (n : Nat) {f : Task → Task}
    (hf : ∀ t, (f t).state = t.state) : (m.modify n f).Queued now := by
  have hlength : (m.modify n f).tasks.length = m.tasks.length := List.length_modify ..
  have htask : ∀ k t', (m.modify n f).task? k = some t' →
      ∃ t, m.task? k = some t ∧ t'.state = t.state := by
    intro k t' ht'
    rw [task?_modify] at ht'
    split at ht'
    · obtain ⟨t, ht, rfl⟩ := Option.map_eq_some_iff.mp ht'
      exact ⟨t, ht, hf t⟩
    · exact ⟨t', ht', rfl⟩
  refine ⟨hlength ▸ h.queue, hlength ▸ h.sleepers, fun k t' ht' hgoesOn => ?_, ?_⟩
  · obtain ⟨t, ht, hstate⟩ := htask k t' ht'
    exact h.goesOn k t ht (hstate ▸ hgoesOn)
  · intro k t' untilMs ht' hdue
    obtain ⟨t, ht, hstate⟩ := htask k t' ht'
    exact h.waits k t untilMs ht (hstate ▸ hdue)

/-- Somebody who asks for a turn gets one. -/
theorem Queued.asks (h : m.Queued []) {t : Task} (ht : m.task? n = some t) :
    (m.enqueue n).Queued [] :=
  Queued.enqueue (h.mono (by simp)) (task?_lt ht)

theorem Queued.cancel (h : m.Queued []) (n : Nat) : (m.cancel n).Queued [] := by
  unfold Ensemble.cancel
  cases ht : m.task? n with
  | none => exact h
  | some t =>
    have hmarked : (m.modify n fun t => { t with isCancelled := true }).Queued [] :=
      h.modify n fun _ => rfl
    dsimp only
    split
    · refine hmarked.asks (t := t.cancelled) ?_
      rw [task?_modify, if_pos rfl, ht]
      rfl
    · exact hmarked

theorem Queued.abort (h : m.Queued []) {t : Task} (ht : m.task? n = some t) :
    (m.abort n).Queued [] := by
  unfold Ensemble.abort
  split
  · exact h
  · have hmarked : (m.modify n fun t => { t with isAborted := true }).Queued [] :=
      h.modify n fun _ => rfl
    refine hmarked.asks (t := t.aborted) ?_
    rw [task?_modify, if_pos rfl, ht]
    rfl

theorem Queued.stop (h : m.Queued []) (device : String) : (m.stop device).1.Queued [] := by
  unfold Ensemble.stop
  split
  · exact h
  · exact Queued.cancel (m := m.keep _) ⟨h.queue, h.sleepers, h.goesOn, h.waits⟩ _

theorem Queued.stopAll (h : m.Queued []) : m.stopAll.1.Queued [] := by
  have hcancelAll : ∀ (entries : List (String × Nat)) (m : Ensemble), m.Queued [] →
      (entries.foldl (fun m e => m.cancel e.2) m).Queued [] := by
    intro entries
    induction entries with
    | nil => exact fun m h => h
    | cons e entries ih => exact fun m h => ih _ (h.cancel e.2)
  exact hcancelAll _ m h

theorem length_add (m : Ensemble) (t : Task) : (m.add t).tasks.length = m.tasks.length + 1 :=
  List.length_append

/-- A new task has its first turn now. -/
theorem Queued.add (h : m.Queued []) {t : Task} (ht : t.state.dueMs? = none) :
    (m.add t).Queued [m.tasks.length] := by
  have hgrows : ∀ {l}, Lists m.tasks.length l → Lists (m.add t).tasks.length l := by
    intro l hl
    refine ⟨hl.nodup, fun k hk => ?_⟩
    have hlt := hl.lt k hk
    rw [length_add]
    omega
  refine ⟨hgrows h.queue, hgrows h.sleepers, fun k t' ht' hgoesOn => ?_, ?_⟩
  · rw [task?_add] at ht'
    split at ht'
    · rename_i hk
      exact .inr (List.mem_singleton.mpr hk)
    · exact .inl ((h.goesOn k t' ht' hgoesOn).resolve_right (by simp))
  · intro k t' untilMs ht' hdue
    rw [task?_add] at ht'
    split at ht'
    · cases ht'
      rw [ht] at hdue
      cases hdue
    · exact h.waits k t' untilMs ht' hdue

/-- A new task that asks for its first turn. -/
theorem Queued.addLater (h : m.Queued []) {t : Task} (ht : t.state.dueMs? = none) :
    ((m.add t).enqueue m.tasks.length).Queued [] := by
  refine Queued.enqueue (h.add ht) ?_
  rw [length_add]
  omega

theorem Queued.start (h : m.Queued []) (cast : Cast) (device : String) (w : Workflow)
    (vars : Variables) : ((Move.start device w vars).apply cast m).Queued [] := by
  cases hrunning : m.registry.isRunning device with
  | true =>
    rw [Move.apply, start_of_isRunning hrunning]
    exact h
  | false =>
    dsimp only [Move.apply]
    unfold Ensemble.start Registry.claim
    rw [hrunning]
    have hclaimed : ({ m with registry := m.registry.claimed device m.tasks.length } :
        Ensemble).Queued [] := ⟨h.queue, h.sleepers, h.goesOn, h.waits⟩
    have hadded := hclaimed.addLater (t := runTask cast m device w vars) rfl
    exact ⟨hadded.queue, hadded.sleepers, hadded.goesOn, hadded.waits⟩

/-- After the move that a call begins with, only the schedule leads on; and everybody is where it
    finds him. -/
theorem Queued.call (h : m.Queued []) {cast : Cast} {call : Call} (hcall : call.IsProper cast m) :
    LeadsOn cast (call.begun cast m) (call.apply cast m) := by
  cases call with
  | start device w vars => exact ⟨.refl _, h.start cast device w vars⟩
  | stop device => exact ⟨.refl _, h.stop device⟩
  | stopAll => exact ⟨.refl _, h.stopAll⟩
  | abort n =>
    obtain ⟨t, ht⟩ := Option.isSome_iff_exists.mp (hcall.abort n rfl)
    exact ⟨.refl _, h.abort ht⟩
  | startSingle device s => exact ⟨onSchedule_enqueue .., h.addLater rfl⟩
  | performSingle device s =>
    have hadded : (m.addSingle cast device s).1.Queued [m.tasks.length] := h.add rfl
    have hlength := (queue_turn cast (m.addSingle cast device s).1 m.tasks.length).2
    have hawaited := (hadded.turn cast).await cast (hlength ▸ hcall.count) m.tasks.length
    exact ⟨.head (.turn m.tasks.length) trivial hawaited.onSchedule, hawaited.queued⟩
  | elapse ms => exact h.elapse cast hcall.count ms
  | await n => exact h.await cast hcall.count n

end Ensemble

end DeviceFlow.Rehearsal
