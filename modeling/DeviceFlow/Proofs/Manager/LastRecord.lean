import DeviceFlow.Proofs.Manager.Record
import DeviceFlow.Proofs.Manager.Slot
import Mathlib.Data.List.Induction

/-!
# The record of the last run

The main statement about the records that the manager keeps: after any moves, the record of a
device is that of the run on it that was the last to end, whatever way it ended in, and nothing
else changes it.
-/

namespace DeviceFlow.Rehearsal.Ensemble

variable {cast : Cast} {m m' : Ensemble} {device : String} {n : Nat}

/-- The workflow of a run on a device, and the time at which it was admitted; none if the task
    with the number is no run on this device. -/
def runOn? (m : Ensemble) (device : String) (n : Nat) : Option (Workflow × Nat) :=
  (m.task? n).bind fun t => if t.device = device then t.admitted else none

theorem runOn?_eq_some_iff {admission : Workflow × Nat} :
    m.runOn? device n = some admission ↔
      ∃ t, m.task? n = some t ∧ t.device = device ∧ t.admitted = some admission := by
  unfold runOn?
  rw [Option.bind_eq_some_iff]
  refine exists_congr fun t => and_congr_right fun _ => ?_
  by_cases hdevice : t.device = device
  · simp [hdevice]
  · simp [hdevice]

theorem runOn?_settle (n k : Nat) (t : Task) (state : TaskState) :
    (m.settle n t state).runOn? device k = m.runOn? device k := by
  unfold runOn?
  rw [task?_settle]
  split
  · cases m.task? k with
    | none => rfl
    | some t => rfl
  · rfl

theorem completion?_of_task? {t : Task} (ht : m.task? n = some t) :
    m.completion? n = t.completion? := by
  unfold completion?
  rw [ht]
  rfl

theorem completion?_eq_none_of_isOver {t : Task} (h : t.state.isOver = false) :
    t.completion? = none := by
  unfold Task.completion?
  cases hstate : t.state with
  | «over» c => simp [hstate, TaskState.isOver] at h
  | applying | ready | busy | pausing => rfl

/-- A task that settles is over just when its new state is. -/
theorem completion?_settle {t₀ t : Task} {state : TaskState} (ht : m.task? n = some t₀)
    (k : Nat) :
    (m.settle n t state).completion? k =
      if n = k then (t.inState state).completion? else m.completion? k := by
  unfold completion?
  rw [task?_settle]
  by_cases hk : n = k
  · subst hk
    rw [if_pos rfl, if_pos rfl, ht]
    rfl
  · rw [if_neg hk, if_neg hk]

theorem fits_opening (scene : Scene) : (opening scene).Fits := by
  intro n t ht
  simp [opening, task?] at ht

theorem Changes.fits (hfits : m.Fits) (h : Changes m m') : m'.Fits := by
  intro k t' ht'
  cases h with
  | calm _ hold hnew =>
    cases hk : m.task? k with
    | none => exact (hnew k t' hk ht').2
    | some t =>
      obtain ⟨u, hu, _, hadmitted, hstate⟩ := hold k t hk
      rw [ht'] at hu
      cases hu
      rw [hadmitted, hstate]
      exact hfits k t hk
  | @settled n t before state scene registry ht _ hstate _ _ =>
    rw [task?_settle] at ht'
    split at ht'
    · rename_i hk
      subst hk
      have hsame : ({ m with scene := scene, registry := registry } : Ensemble).task? n = some t :=
        ht
      rw [hsame] at ht'
      cases ht'
      exact hstate
    · exact hfits k t' ht'

theorem Fits.play (hfits : m.Fits) (cast : Cast) (moves : List Move) :
    (m.play cast moves).Fits := by
  induction moves generalizing m with
  | nil => exact hfits
  | cons move moves ih => exact ih ((changes_apply hfits cast move).fits hfits)

/-- No task leaves its device, or ceases to be a run. -/
theorem Changes.runOn?_eq (h : Changes m m') {t : Task} (ht : m.task? n = some t)
    (device : String) : m'.runOn? device n = m.runOn? device n := by
  cases h with
  | calm _ hold _ =>
    obtain ⟨t', ht', hdevice, hadmitted, _⟩ := hold n t ht
    unfold runOn?
    rw [ht, ht', Option.bind_some, Option.bind_some, hdevice, hadmitted]
  | settled before state scene registry => exact runOn?_settle ..

theorem Changes.runOn? (h : Changes m m') {admission : Workflow × Nat}
    (hrun : m.runOn? device n = some admission) : m'.runOn? device n = some admission := by
  obtain ⟨t, ht, _⟩ := runOn?_eq_some_iff.mp hrun
  rw [h.runOn?_eq ht, hrun]

/-- The record of a run that did not end by itself, but has ended now: it names the workflow, and
    tells nothing of what the run has done. -/
structure IsAbnormal (m : Ensemble) (w : Workflow) (admittedMs : Nat) (r : RunRecord) : Prop where
  workflowId : r.workflowId = w.id
  workflowName : r.workflowName = w.name
  status : r.status = .error
  error : r.error = some "run task panicked or was aborted"
  steps : r.steps = 0
  vars : r.vars = Dict.empty
  startedAt : r.startedAt = openingDate.addMillis admittedMs
  finishedAt : r.finishedAt = openingDate.addMillis m.scene.nowMs
  durationMs : r.durationMs = m.scene.nowMs - admittedMs

theorem isAbnormal_abnormalRecord (m : Ensemble) (w : Workflow) (admittedMs : Nat) :
    m.IsAbnormal w admittedMs (m.abnormalRecord w admittedMs) :=
  ⟨rfl, rfl, rfl, rfl, rfl, rfl, rfl, rfl, rfl⟩

/-- What a run leaves as its record when it has just ended: the record that it gives back, or an
    abnormal one if it has been aborted or broken down. -/
inductive LeavesRecord (m : Ensemble) (w : Workflow) (admittedMs : Nat) :
    Completion → RunRecord → Prop where
  | returned (record : RunRecord) : LeavesRecord m w admittedMs (.ended (.ran record)) record
  | aborted {r : RunRecord} (h : m.IsAbnormal w admittedMs r) :
      LeavesRecord m w admittedMs .aborted r
  | broken {r : RunRecord} (h : m.IsAbnormal w admittedMs r) :
      LeavesRecord m w admittedMs .broken r

/-- A record that is left remains the same when the task has settled. -/
theorem LeavesRecord.settle {w : Workflow} {admittedMs : Nat} {c : Completion} {r : RunRecord}
    (h : m.LeavesRecord w admittedMs c r) (n : Nat) (t : Task) (state : TaskState) :
    (m.settle n t state).LeavesRecord w admittedMs c r := by
  have hsame : ∀ {r}, m.IsAbnormal w admittedMs r →
      (m.settle n t state).IsAbnormal w admittedMs r := by
    intro r h
    refine ⟨h.workflowId, h.workflowName, h.status, h.error, h.steps, h.vars, h.startedAt, ?_, ?_⟩
    · rw [nowMs_settle]
      exact h.finishedAt
    · rw [nowMs_settle]
      exact h.durationMs
  cases h with
  | returned => exact .returned _
  | aborted h => exact .aborted (hsame h)
  | broken h => exact .broken (hsame h)

/-- A run that is over has left a record. -/
theorem leavesRecord_of_fits {t : Task} {c : Completion} {w : Workflow} {admittedMs : Nat}
    (hadmitted : t.admitted = some (w, admittedMs))
    (hfits : (TaskState.over c).Fits t.admitted.isSome) :
    ∃ r, m.recordOf? t c = some r ∧ m.LeavesRecord w admittedMs c r := by
  unfold recordOf?
  rw [hadmitted] at hfits ⊢
  cases c with
  | ended e =>
    cases e with
    | ran record => exact ⟨record, rfl, .returned record⟩
    | performed outcome => cases hfits
  | refused cause => cases hfits
  | aborted => exact ⟨_, rfl, .aborted (m.isAbnormal_abnormalRecord w admittedMs)⟩
  | broken => exact ⟨_, rfl, .broken (m.isAbnormal_abnormalRecord w admittedMs)⟩

/-- No run on a device ends in a change, and the record of the device remains. -/
def Spares (m m' : Ensemble) (device : String) : Prop :=
  (∀ k admission, m'.runOn? device k = some admission → m'.completion? k = m.completion? k) ∧
    m'.registry.lastRecord? device = m.registry.lastRecord? device

/-- A run on a device ends in a change, and leaves its record. -/
def Ends (m m' : Ensemble) (device : String) : Prop :=
  ∃ n w admittedMs c r, m.runOn? device n = some (w, admittedMs) ∧ m.completion? n = none ∧
    m'.completion? n = some c ∧ (∀ k, k ≠ n → m'.completion? k = m.completion? k) ∧
    m'.LeavesRecord w admittedMs c r ∧ m'.registry.lastRecord? device = some r

/-- A task that settles in a state in which it is not over leaves no record. -/
theorem spares_settle {t : Task} {state : TaskState} (ht : m.task? n = some t)
    (hbegun : m.completion? n = none) (before : TaskState) (hstate : state.isOver = false)
    (device : String) : Spares m (m.settle n (t.inState before) state) device := by
  refine ⟨fun k _ _ => ?_, ?_⟩
  · rw [completion?_settle ht]
    split
    · rename_i hk
      subst hk
      rw [completion?_eq_none_of_isOver hstate, hbegun]
    · rfl
  · rw [lastRecord?_settle]
    cases state with
    | «over» c => simp [TaskState.isOver] at hstate
    | applying | ready | busy | pausing => rfl

/-- A task that is over leaves a record if it is a run, and only for its device. -/
theorem spares_or_ends_settle {t : Task} {c : Completion} {before : TaskState}
    (ht : m.task? n = some t) (hbegun : m.completion? n = none)
    (hfits : (TaskState.over c).Fits t.admitted.isSome)
    (hholder : (t.inState before).isHolder = true ∨ t.admitted = none) (device : String) :
    Spares m (m.settle n (t.inState before) (.over c)) device ∨
      Ends m (m.settle n (t.inState before) (.over c)) device := by
  have hothers : ∀ k, k ≠ n →
      (m.settle n (t.inState before) (.over c)).completion? k = m.completion? k := by
    intro k hk
    rw [completion?_settle ht, if_neg (Ne.symm hk)]
  have hrecord := lastRecord?_settle (m := m) n (t.inState before) (.over c) device
  dsimp only at hrecord
  cases hrun : m.runOn? device n with
  | none =>
    refine .inl ⟨fun k admission hk => hothers k ?_, ?_⟩
    · rintro rfl
      rw [runOn?_settle, hrun] at hk
      cases hk
    · rw [hrecord]
      split
      · rename_i hfreed
        have hnone : t.admitted = none := by
          cases hadmitted : t.admitted with
          | none => rfl
          | some admission =>
            rw [runOn?_eq_some_iff.mpr ⟨t, ht, hfreed.2, hadmitted⟩] at hrun
            cases hrun
        have hnothing := recordOf?_of_single (m := m) (t := t.inState before) hnone c
        rw [hnothing, Option.none_or]
      · rfl
  | some admission =>
    obtain ⟨w, admittedMs⟩ := admission
    obtain ⟨u, hu, hdevice, hadmitted⟩ := runOn?_eq_some_iff.mp hrun
    rw [ht] at hu
    cases hu
    have hheld := hholder.resolve_right (by simp [hadmitted])
    obtain ⟨r, hr, hleaves⟩ := leavesRecord_of_fits (m := m) hadmitted hfits
    refine .inr ⟨n, w, admittedMs, c, r, hrun, hbegun, ?_, hothers, ?_, ?_⟩
    · rw [completion?_settle ht, if_pos rfl]
      rfl
    · exact hleaves.settle ..
    · rw [hrecord, if_pos ⟨hheld, hdevice⟩]
      exact congrArg (Option.or · _) hr

/-- A change either ends no run on a device and spares its record, or ends one, whose record
    comes in its place. -/
theorem Changes.spares_or_ends (h : Changes m m') (device : String) :
    Spares m m' device ∨ Ends m m' device := by
  cases h with
  | calm hrecords hold hnew =>
    refine .inl ⟨fun k _ _ => ?_, hrecords device⟩
    cases hk : m.task? k with
    | none =>
      have hnone : m.completion? k = none := by simp [completion?, hk]
      rw [hnone]
      cases hk' : m'.task? k with
      | none => simp [completion?, hk']
      | some t' =>
        rw [completion?_of_task? hk', completion?_eq_none_of_isOver (hnew k t' hk hk').1]
    | some t =>
      obtain ⟨t', ht', _, _, hstate⟩ := hold k t hk
      rw [completion?_of_task? hk, completion?_of_task? ht']
      unfold Task.completion?
      rw [hstate]
  | @settled n t before state scene registry ht hover hfits hrecords hholder =>
    let m₀ : Ensemble := { m with scene := scene, registry := registry }
    have htask : m₀.task? n = some t := ht
    have hbegun : m₀.completion? n = none :=
      (completion?_of_task? ht).trans (completion?_eq_none_of_isOver hover)
    have hsettled : Spares m₀ (m₀.settle n (t.inState before) state) device ∨
        Ends m₀ (m₀.settle n (t.inState before) state) device := by
      cases state with
      | «over» c => exact spares_or_ends_settle htask hbegun hfits hholder device
      | applying | ready | busy | pausing =>
        exact .inl (spares_settle htask hbegun before rfl device)
    exact hsettled.imp_left fun h => ⟨h.1, h.2.trans (hrecords device)⟩

/-- Of the runs on a device, one was the last to end along some moves: it ended in one of them,
    all others that are over were over before, and it has left a record. -/
def LastToEnd (cast : Cast) (m : Ensemble) (moves : List Move) (device : String) (n : Nat)
    (r : RunRecord) : Prop :=
  ∃ before move after w admittedMs c, moves = before ++ move :: after ∧
    (m.play cast moves).runOn? device n = some (w, admittedMs) ∧
    (m.play cast before).completion? n = none ∧
    (move.apply cast (m.play cast before)).completion? n = some c ∧
    (m.play cast moves).completion? n = some c ∧
    (∀ k admission, (m.play cast moves).runOn? device k = some admission →
      (m.play cast moves).completion? k ≠ none →
        k = n ∨ (m.play cast before).completion? k ≠ none) ∧
    (move.apply cast (m.play cast before)).LeavesRecord w admittedMs c r

theorem play_snoc (cast : Cast) (m : Ensemble) (moves : List Move) (move : Move) :
    m.play cast (moves ++ [move]) = move.apply cast (m.play cast moves) := by
  unfold play
  rw [List.foldl_append]
  rfl

/-- A run that was the last to end is still so after a move in which none ends. -/
theorem LastToEnd.snoc {moves : List Move} {move : Move} {r : RunRecord}
    (h : LastToEnd cast m moves device n r)
    (hchanges : Changes (m.play cast moves) (move.apply cast (m.play cast moves)))
    (hspares : Spares (m.play cast moves) (move.apply cast (m.play cast moves)) device) :
    LastToEnd cast m (moves ++ [move]) device n r := by
  obtain ⟨before, last, after, w, admittedMs, c, hmoves, hrun, hbegun, hended, hover, hothers,
    hleaves⟩ := h
  refine ⟨before, last, after ++ [move], w, admittedMs, c, ?_, ?_, hbegun, hended, ?_, ?_,
    hleaves⟩
  · rw [hmoves, List.append_assoc, List.cons_append]
  · rw [play_snoc]
    exact hchanges.runOn? hrun
  · rw [play_snoc, hspares.1 n _ (hchanges.runOn? hrun)]
    exact hover
  · intro k admission hk hcompletion
    rw [play_snoc] at hk hcompletion
    rw [hspares.1 k admission hk] at hcompletion
    cases htask : (m.play cast moves).task? k with
    | none => exact absurd (by simp [completion?, htask]) hcompletion
    | some t =>
      rw [hchanges.runOn?_eq htask] at hk
      exact hothers k admission hk hcompletion

/-- A run that ends in a move is the last one to end after it. -/
theorem lastToEnd_of_ends {moves : List Move} {move : Move}
    (hchanges : Changes (m.play cast moves) (move.apply cast (m.play cast moves)))
    (hends : Ends (m.play cast moves) (move.apply cast (m.play cast moves)) device) :
    ∃ n r, LastToEnd cast m (moves ++ [move]) device n r ∧
      (m.play cast (moves ++ [move])).registry.lastRecord? device = some r := by
  obtain ⟨n, w, admittedMs, c, r, hrun, hbegun, hended, hothers, hleaves, hrecord⟩ := hends
  refine ⟨n, r, ⟨moves, move, [], w, admittedMs, c, rfl, ?_, hbegun, hended, ?_, ?_, hleaves⟩, ?_⟩
  · rw [play_snoc]
    exact hchanges.runOn? hrun
  · rw [play_snoc]
    exact hended
  · intro k _ _ hcompletion
    by_cases hk : k = n
    · exact .inl hk
    · rw [play_snoc, hothers k hk] at hcompletion
      exact .inr hcompletion
  · rw [play_snoc]
    exact hrecord

/-- The record of a device is that of the last run on it to end, if one has ended. -/
theorem lastRecord?_play (cast : Cast) (scene : Scene) (device : String) (moves : List Move) :
    (((opening scene).play cast moves).registry.lastRecord? device = none ∧
      ∀ n admission, ((opening scene).play cast moves).runOn? device n = some admission →
        ((opening scene).play cast moves).completion? n = none) ∨
    ∃ n r, LastToEnd cast (opening scene) moves device n r ∧
      ((opening scene).play cast moves).registry.lastRecord? device = some r := by
  induction moves using List.reverseRecOn with
  | nil => exact .inl ⟨rfl, fun n _ _ => by simp [play, completion?, task?, opening]⟩
  | append_singleton moves move ih =>
    have hfits : ((opening scene).play cast moves).Fits := (fits_opening scene).play cast moves
    have hchanges := changes_apply hfits cast move
    rcases hchanges.spares_or_ends device with hspares | hends
    · rcases ih with ⟨hnone, hrunning⟩ | ⟨n, r, hlast, hrecord⟩
      · rw [play_snoc]
        refine .inl ⟨hspares.2.trans hnone, fun n admission hrun => ?_⟩
        rw [hspares.1 n admission hrun]
        cases htask : ((opening scene).play cast moves).task? n with
        | none => simp [completion?, htask]
        | some t =>
          rw [hchanges.runOn?_eq htask] at hrun
          exact hrunning n admission hrun
      · refine .inr ⟨n, r, hlast.snoc hchanges hspares, ?_⟩
        rw [play_snoc, hspares.2, hrecord]
    · exact .inr (lastToEnd_of_ends hchanges hends)

theorem Turns.task?_of_ne {k : Nat} (h : Turns cast m n m') (hk : k ≠ n) :
    m'.task? k = m.task? k := by
  cases h with
  | idle => rfl
  | aborted | refused => rw [task?_settle, if_neg (Ne.symm hk)]
  | admitted | ready | answered | rested =>
    unfold goOn
    dsimp only
    rw [task?_settle, if_neg (Ne.symm hk)]
    rfl

theorem task?_breakDown_of_ne (cast : Cast) (m : Ensemble) {k : Nat} (hk : k ≠ n) :
    ((Move.breakDown n).apply cast m).task? k = m.task? k := by
  dsimp only [Move.apply]
  split
  · split
    · rw [task?_settle, if_neg (Ne.symm hk)]
    · rfl
  · rfl

/-- A move that gives no task its turn, and breaks none down, leaves all records. -/
theorem lastRecord?_apply_of_call (cast : Cast) (m : Ensemble) {move : Move}
    (hturn : ∀ n, move ≠ .turn n) (hbreak : ∀ n, move ≠ .breakDown n) (device : String) :
    (move.apply cast m).registry.lastRecord? device = m.registry.lastRecord? device := by
  cases move with
  | start other w vars =>
    cases hrunning : m.registry.isRunning other with
    | true => rw [Move.apply, start_of_isRunning hrunning]
    | false =>
      obtain ⟨m', hstart, _, hregistry, _⟩ := start_eq_ok cast hrunning w vars
      rw [Move.apply, hstart]
      dsimp only
      rw [hregistry]
      rfl
  | stop other => rw [Move.apply, registry_stop]
  | stopAll => rw [Move.apply, registry_stopAll]
  | abort n => rw [Move.apply, registry_abort]
  | turn n => exact absurd rfl (hturn n)
  | breakDown n => exact absurd rfl (hbreak n)
  | answer n answers =>
    dsimp only [Move.apply]
    split
    · split
      · exact lastRecord?_settle ..
      · rfl
    · rfl
  | single | change => rfl

/-- What the manager guarantees about the records in an ensemble. -/
structure KeepsRecords (cast : Cast) (m : Ensemble) : Prop where
  /-- A move in which no run on a device ends leaves the record of the device. -/
  spared : ∀ move device,
    (∀ k admission, (Move.apply cast m move).runOn? device k = some admission →
      (Move.apply cast m move).completion? k = m.completion? k) →
    (Move.apply cast m move).registry.lastRecord? device = m.registry.lastRecord? device
  /-- So do the calls of the manager, refused or not, and every move in which no task goes on. -/
  called : ∀ move device, (∀ n, move ≠ .turn n) → (∀ n, move ≠ .breakDown n) →
    (Move.apply cast m move).registry.lastRecord? device = m.registry.lastRecord? device
  /-- So does a single step, whatever becomes of it, and every task on another device. -/
  unrelated : ∀ n t device, m.task? n = some t → t.device ≠ device ∨ t.admitted = none →
    ∀ move, move = .turn n ∨ move = .breakDown n →
      (Move.apply cast m move).registry.lastRecord? device = m.registry.lastRecord? device

theorem Fits.keepsRecords (hfits : m.Fits) (cast : Cast) : m.KeepsRecords cast where
  spared move device hsame := by
    have hchanges := changes_apply hfits cast move
    rcases hchanges.spares_or_ends device with hspares | hends
    · exact hspares.2
    · obtain ⟨n, w, admittedMs, c, r, hrun, hbegun, hended, _⟩ := hends
      rw [hsame n _ (hchanges.runOn? hrun), hbegun] at hended
      cases hended
  called move device hturn hbreak := lastRecord?_apply_of_call cast m hturn hbreak device
  unrelated n t device ht hother move hmove := by
    have hchanges := changes_apply hfits cast move
    rcases hchanges.spares_or_ends device with hspares | hends
    · exact hspares.2
    · obtain ⟨k, w, admittedMs, c, r, hrun, hbegun, hended, _⟩ := hends
      -- Only the task that moves can end, and it is no run on this device.
      have hk : k = n := by
        by_contra hk
        have hsame : (move.apply cast m).task? k = m.task? k := by
          rcases hmove with rfl | rfl
          · exact (turns_turn cast m n).task?_of_ne hk
          · exact task?_breakDown_of_ne cast m hk
        unfold completion? at hbegun hended
        rw [hsame, hbegun] at hended
        cases hended
      subst hk
      obtain ⟨u, hu, hdevice, hadmitted⟩ := runOn?_eq_some_iff.mp hrun
      rw [ht] at hu
      cases hu
      rcases hother with hother | hsingle
      · exact absurd hdevice hother
      · rw [hsingle] at hadmitted
        cases hadmitted

/-- In every order of moves, the record of a device is that of the run on it that was the last to
    end, and no record before one has; and nothing but the end of a run on the device changes it. -/
theorem keepsLastRecord_play (cast : Cast) (scene : Scene) (moves : List Move) :
    (∀ device,
      (((opening scene).play cast moves).registry.lastRecord? device = none ∧
        ∀ n admission, ((opening scene).play cast moves).runOn? device n = some admission →
          ((opening scene).play cast moves).completion? n = none) ∨
      ∃ n r, LastToEnd cast (opening scene) moves device n r ∧
        ((opening scene).play cast moves).registry.lastRecord? device = some r) ∧
    ((opening scene).play cast moves).KeepsRecords cast :=
  ⟨fun device => lastRecord?_play cast scene device moves,
    ((fits_opening scene).play cast moves).keepsRecords cast⟩

/-- A run is aborted in the middle of a call, a run on another device breaks down, and the first
    device gets another run. -/
def interrupted : List Move :=
  [.start "d" pressing Dict.empty, .start "e" pressing Dict.empty, .turn 0, .turn 1,
    .change ((opening (.opening .empty)).scene.pass 3) [] [], .abort 0, .turn 0, .breakDown 1,
    .start "d" pressing Dict.empty, .turn 2]

/-- Both runs that did not end by themselves have left a record, which the next run does not touch
    before it is over. -/
theorem keepsLastRecord_interrupted :
    let m := (opening (.opening .empty)).play slowDevice interrupted
    m.KeepsRecords slowDevice ∧
      (∃ n r, LastToEnd slowDevice (opening (.opening .empty)) interrupted "d" n r ∧
        m.registry.lastRecord? "d" = some r ∧ r.workflowId = "pressing" ∧ r.status = .error ∧
          r.error = some "run task panicked or was aborted" ∧ r.durationMs = 3) ∧
      (∃ n r, LastToEnd slowDevice (opening (.opening .empty)) interrupted "e" n r ∧
        m.registry.lastRecord? "e" = some r ∧ r.workflowId = "pressing" ∧ r.status = .error ∧
          r.error = some "run task panicked or was aborted" ∧ r.durationMs = 3) ∧
      m.completion? 0 = some .aborted ∧ m.completion? 1 = some .broken ∧
        m.completion? 2 = none := by
  intro m
  obtain ⟨hlast, hkeeps⟩ := keepsLastRecord_play slowDevice (.opening .empty) interrupted
  refine ⟨hkeeps, ?_, ?_, rfl, rfl, rfl⟩
  · rcases hlast "d" with ⟨hnone, _⟩ | ⟨n, r, hends, hrecord⟩
    · cases hnone
    · refine ⟨n, r, hends, hrecord, ?_⟩
      cases hrecord
      exact ⟨rfl, rfl, rfl, rfl⟩
  · rcases hlast "e" with ⟨hnone, _⟩ | ⟨n, r, hends, hrecord⟩
    · cases hnone
    · refine ⟨n, r, hends, hrecord, ?_⟩
      cases hrecord
      exact ⟨rfl, rfl, rfl, rfl⟩

end DeviceFlow.Rehearsal.Ensemble
