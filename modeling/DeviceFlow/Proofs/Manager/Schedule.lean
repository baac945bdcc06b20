import DeviceFlow.Proofs.Manager.LastRecord
import Mathlib.Data.List.Perm.Subperm

/-!
# The schedule of turns and time

Time passes only when nobody can go on, and then up to the moment at which the first task does:
whoever can go on is in the queue, which is empty before time passes, and whoever waits is among
the sleepers, of whom the first one is looked for. This holds of all that the manager does.
-/

namespace DeviceFlow.Rehearsal

/-- A task in this state takes a step at its next turn: it does not wait for a time, and is not
    over. -/
def TaskState.goesOn : TaskState → Bool
  | .applying _ | .ready _ => true
  | .busy .. | .pausing .. | .over _ => false

/-- The time that a task waits for in a state. -/
def TaskState.dueMs? : TaskState → Option Nat
  | .busy untilMs _ | .pausing untilMs _ => some untilMs
  | .applying _ | .ready _ | .over _ => none

theorem Task.dueMs?_eq (t : Task) : t.dueMs? = t.state.dueMs? := by
  unfold dueMs? TaskState.dueMs?
  cases t.state with
  | applying | ready | busy | pausing | «over» => rfl

theorem TaskState.goesOn_stateAfter (pace : Pace Ending) :
    (Task.stateAfter pace).goesOn = false := by
  cases pace with
  | done | broken | busy | pausing => rfl

namespace Ensemble

variable {cast : Cast} {m m' m'' : Ensemble} {n : Nat}

/-- A list of some of so many tasks, none of them twice. -/
structure Lists (count : Nat) (l : List Nat) : Prop where
  nodup : l.Nodup
  lt : ∀ k ∈ l, k < count

theorem Lists.length_le {count : Nat} {l : List Nat} (h : Lists count l) : l.length ≤ count := by
  have hrange : l ⊆ List.range count := fun k hk => List.mem_range.mpr (h.lt k hk)
  have hle := (h.nodup.subperm hrange).length_le
  rwa [List.length_range] at hle

theorem Lists.snoc {count : Nat} {l : List Nat} (h : Lists count l) (hn : n < count)
    (hnew : n ∉ l) : Lists count (l ++ [n]) := by
  constructor
  · rw [List.nodup_append]
    refine ⟨h.nodup, by simp, ?_⟩
    rintro a ha b hb rfl
    rw [List.mem_singleton] at hb
    exact hnew (hb ▸ ha)
  · intro k hk
    rcases List.mem_append.mp hk with hk | hk
    · exact h.lt k hk
    · rwa [List.mem_singleton.mp hk]

/-- Everybody is where the schedule finds him: a task that takes a step at its next turn is in the
    queue, unless its turn is now, and one that waits for a time is among the sleepers. -/
structure Queued (m : Ensemble) (now : List Nat) : Prop where
  queue : Lists m.tasks.length m.queue
  sleepers : Lists m.tasks.length m.sleepers
  goesOn : ∀ k t, m.task? k = some t → t.state.goesOn = true → k ∈ m.queue ∨ k ∈ now
  waits : ∀ k t untilMs, m.task? k = some t → t.state.dueMs? = some untilMs → k ∈ m.sleepers

theorem queued_opening (scene : Scene) : (opening scene).Queued [] := by
  refine ⟨⟨List.nodup_nil, by simp [opening]⟩, ⟨List.nodup_nil, by simp [opening]⟩, ?_, ?_⟩
  · intro k t ht
    simp [opening, task?] at ht
  · intro k t untilMs ht
    simp [opening, task?] at ht

theorem Queued.mono {now now' : List Nat} (h : m.Queued now) (hnow : ∀ k ∈ now, k ∈ now') :
    m.Queued now' :=
  ⟨h.queue, h.sleepers, fun k t ht hgoesOn => (h.goesOn k t ht hgoesOn).imp_right (hnow k),
    h.waits⟩

theorem task?_lt {t : Task} (ht : m.task? n = some t) : n < m.tasks.length :=
  (List.getElem?_eq_some_iff.mp ht).1

theorem queue_enqueue (m : Ensemble) (n : Nat) :
    (m.enqueue n).queue = if n ∈ m.queue then m.queue else m.queue ++ [n] := by
  unfold enqueue
  by_cases hn : n ∈ m.queue
  · simp [hn]
  · simp [hn]

@[simp] theorem tasks_enqueue (m : Ensemble) (n : Nat) : (m.enqueue n).tasks = m.tasks := by
  unfold enqueue
  split
  · rfl
  · rfl

@[simp] theorem sleepers_enqueue (m : Ensemble) (n : Nat) :
    (m.enqueue n).sleepers = m.sleepers := by
  unfold enqueue
  split
  · rfl
  · rfl

theorem mem_queue_enqueue {k : Nat} :
    k ∈ (m.enqueue n).queue ↔ k ∈ m.queue ∨ k = n := by
  rw [queue_enqueue]
  by_cases hn : n ∈ m.queue
  · rw [if_pos hn]
    constructor
    · exact .inl
    · rintro (hk | rfl)
      · exact hk
      · exact hn
  · rw [if_neg hn, List.mem_append, List.mem_singleton]

/-- A task whose turn is now may as well wait for it in the queue. -/
theorem Queued.enqueue (h : m.Queued [n]) (hn : n < m.tasks.length) : (m.enqueue n).Queued [] := by
  refine ⟨?_, ?_, fun k t ht hgoesOn => ?_, ?_⟩
  · rw [tasks_enqueue, queue_enqueue]
    split
    · exact h.queue
    · rename_i hnew
      exact h.queue.snoc hn hnew
  · rw [tasks_enqueue, sleepers_enqueue]
    exact h.sleepers
  · rw [task?_enqueue] at ht
    refine .inl (mem_queue_enqueue.mpr ?_)
    exact (h.goesOn k t ht hgoesOn).imp_right List.mem_singleton.mp
  · intro k t untilMs ht hdue
    rw [task?_enqueue] at ht
    rw [sleepers_enqueue]
    exact h.waits k t untilMs ht hdue

/-- A task that settles is taken from the sleepers, and put behind them if it waits for a time
    now; the queue stays as it is. -/
theorem settle_eq (n : Nat) (t : Task) (state : TaskState) :
    ∃ scene registry, m.settle n t state =
      { scene := scene
        registry := registry
        tasks := m.tasks.modify n (·.inState state)
        queue := m.queue
        sleepers := if state.dueMs?.isSome then m.sleepers.filter (· ≠ n) ++ [n]
          else m.sleepers.filter (· ≠ n) } := by
  unfold settle
  cases state with
  | «over» c =>
    dsimp only
    unfold free
    split
    · split
      · exact ⟨_, _, rfl⟩
      · exact ⟨_, _, rfl⟩
      · exact ⟨_, _, rfl⟩
      · exact ⟨_, _, rfl⟩
    · exact ⟨_, _, rfl⟩
  | applying | ready | busy | pausing => exact ⟨_, _, rfl⟩

theorem length_settle (n : Nat) (t : Task) (state : TaskState) :
    (m.settle n t state).tasks.length = m.tasks.length := by
  obtain ⟨scene, registry, heq⟩ := m.settle_eq n t state
  rw [heq, List.length_modify]

/-- A task that settles in a state in which it has to wait, or is over, has had its turn. -/
theorem Queued.settle (h : m.Queued [n]) {t₀ : Task} (ht₀ : m.task? n = some t₀) (t : Task)
    {state : TaskState} (hstate : state.goesOn = false) : (m.settle n t state).Queued [] := by
  have hlength := m.length_settle n t state
  have htask := fun k => m.task?_settle n k t state
  obtain ⟨scene, registry, heq⟩ := m.settle_eq n t state
  rw [heq] at hlength htask ⊢
  have hothers : Lists m.tasks.length (m.sleepers.filter (· ≠ n)) :=
    ⟨h.sleepers.nodup.filter _, fun k hk => h.sleepers.lt k (List.mem_filter.mp hk).1⟩
  refine ⟨hlength ▸ h.queue, ?_, ?_, ?_⟩
  · rw [hlength]
    dsimp only
    split
    · exact hothers.snoc (task?_lt ht₀) (by simp)
    · exact hothers
  · intro k t' ht' hgoesOn
    rw [htask] at ht'
    by_cases hk : n = k
    · subst hk
      rw [if_pos rfl, ht₀] at ht'
      cases ht'
      exact absurd (hgoesOn.symm.trans hstate) (by decide)
    · rw [if_neg hk] at ht'
      refine (h.goesOn k t' ht' hgoesOn).imp_right fun hnow => ?_
      exact absurd (List.mem_singleton.mp hnow).symm hk
  · intro k t' untilMs ht' hdue
    rw [htask] at ht'
    by_cases hk : n = k
    · subst hk
      rw [if_pos rfl, ht₀] at ht'
      cases ht'
      have hwaits : state.dueMs? = some untilMs := hdue
      simp [hwaits]
    · rw [if_neg hk] at ht'
      have hmem := h.waits k t' untilMs ht' hdue
      split
      · simp [hmem, Ne.symm hk]
      · simp [hmem, Ne.symm hk]

/-- A task that has had its turn has to wait, or is over. -/
theorem Queued.turn (h : m.Queued [n]) (cast : Cast) : (m.turn cast n).Queued [] := by
  have hidle : (∀ t, m.task? n = some t → t.state.goesOn = false) → m.Queued [] := by
    intro hnone
    refine ⟨h.queue, h.sleepers, fun k t ht hgoesOn => ?_, h.waits⟩
    refine (h.goesOn k t ht hgoesOn).imp_right fun hnow => ?_
    rw [List.mem_singleton.mp hnow] at ht
    exact absurd (hgoesOn.symm.trans (hnone t ht)) (by decide)
  have hgoOn : ∀ (registry : Registry) (scene : Scene) (t₀ t : Task) (plan : Plan Ending),
      m.task? n = some t₀ →
      (({ m with registry := registry, scene := scene } : Ensemble).goOn cast n t plan).Queued
        [] := by
    intro registry scene t₀ t plan ht₀
    exact Queued.settle (m := { m with registry := registry, scene := _ })
      ⟨h.queue, h.sleepers, h.goesOn, h.waits⟩ ht₀ t (TaskState.goesOn_stateAfter _)
  cases ht : m.task? n with
  | none =>
    have hsame : m.turn cast n = m := by
      unfold Ensemble.turn
      rw [ht]
    rw [hsame]
    exact hidle fun t ht' => by rw [ht] at ht'; cases ht'
  | some t =>
    have hstays : t.state.goesOn = false → m.Queued [] := by
      intro hstate
      refine hidle fun t' ht' => ?_
      rw [ht] at ht'
      cases ht'
      exact hstate
    cases haborted : t.isAborted with
    | true =>
      cases hstate : t.state with
      | «over» c =>
        rw [turn_of_over ht hstate]
        exact hstays (by rw [hstate]; rfl)
      | applying | ready | busy | pausing =>
        rw [turn_of_isAborted ht haborted (by rw [hstate]; rfl)]
        exact h.settle ht t rfl
    | false =>
      cases hstate : t.state with
      | «over» c =>
        rw [turn_of_over ht hstate]
        exact hstays (by rw [hstate]; rfl)
      | applying plan =>
        rw [turn_of_applying ht hstate haborted]
        split
        · exact h.settle ht t rfl
        · exact hgoOn _ _ _ _ _ ht
      | ready plan =>
        rw [turn_of_ready ht hstate haborted]
        exact hgoOn _ _ _ _ _ ht
      | busy untilMs resume =>
        rw [turn_of_busy ht hstate haborted]
        split
        · exact hstays (by rw [hstate]; rfl)
        · exact hgoOn _ _ _ _ _ ht
      | pausing untilMs resume =>
        rw [turn_of_pausing ht hstate haborted]
        split
        · exact hgoOn _ _ _ _ _ ht
        · split
          · exact hgoOn _ _ _ _ _ ht
          · exact hstays (by rw [hstate]; rfl)

theorem queue_settle (n : Nat) (t : Task) (state : TaskState) :
    (m.settle n t state).queue = m.queue := by
  obtain ⟨scene, registry, heq⟩ := m.settle_eq n t state
  rw [heq]

/-- A turn neither puts anybody in the queue nor adds a task. -/
theorem queue_turn (cast : Cast) (m : Ensemble) (n : Nat) :
    (m.turn cast n).queue = m.queue ∧ (m.turn cast n).tasks.length = m.tasks.length := by
  have hturns := turns_turn cast m n
  generalize m.turn cast n = m' at hturns ⊢
  cases hturns with
  | idle => exact ⟨rfl, rfl⟩
  | aborted | refused => exact ⟨queue_settle .., length_settle ..⟩
  | admitted | ready | answered | rested =>
    unfold goOn
    dsimp only
    exact ⟨queue_settle .., length_settle ..⟩

/-- What a schedule may do: it gives a task its turn, or changes who waits; or it lets time pass,
    but only when no task can go on, and not past the moment at which one does. -/
def Schedules (m : Ensemble) : Move → Prop
  | .turn _ => True
  | .change scene .. => scene = m.scene ∨ ∃ ms, scene = m.scene.pass ms ∧
      (ms = 0 ∨ ∀ k t, m.task? k = some t → t.state.goesOn = false ∧
        ∀ untilMs, t.state.dueMs? = some untilMs → m.scene.nowMs + ms ≤ untilMs)
  | _ => False

/-- A schedule leads from one ensemble to another. -/
inductive OnSchedule (cast : Cast) : Ensemble → Ensemble → Prop where
  | refl (m : Ensemble) : OnSchedule cast m m
  | head {m m' : Ensemble} (move : Move) (h : m.Schedules move)
      (hrest : OnSchedule cast (move.apply cast m) m') : OnSchedule cast m m'

theorem OnSchedule.trans (h : OnSchedule cast m m') (h' : OnSchedule cast m' m'') :
    OnSchedule cast m m'' := by
  induction h with
  | refl m => exact h'
  | head move hmove _ ih => exact .head move hmove (ih h')

theorem OnSchedule.length_eq (h : OnSchedule cast m m') :
    m'.tasks.length = m.tasks.length := by
  induction h with
  | refl m => rfl
  | @head m m' move hmove _ ih =>
    refine ih.trans ?_
    cases move with
    | turn n => exact (queue_turn cast m n).2
    | change => rfl
    | start | single | stop | stopAll | abort | answer | breakDown => exact hmove.elim

/-- Somebody is put in the queue, or taken from it. -/
theorem onSchedule_queue (cast : Cast) (m : Ensemble) (queue : List Nat) :
    OnSchedule cast m { m with queue := queue } :=
  .head (.change m.scene queue m.sleepers) (.inl rfl) (.refl _)

theorem onSchedule_enqueue (cast : Cast) (m : Ensemble) (n : Nat) :
    OnSchedule cast m (m.enqueue n) := by
  unfold enqueue
  split
  · exact .refl m
  · exact onSchedule_queue ..

/-- A schedule leads on, and everybody is where the next step finds him. -/
structure LeadsOn (cast : Cast) (m m' : Ensemble) : Prop where
  onSchedule : OnSchedule cast m m'
  queued : m'.Queued []

theorem LeadsOn.trans (h : LeadsOn cast m m') (h' : LeadsOn cast m' m'') : LeadsOn cast m m'' :=
  ⟨h.onSchedule.trans h'.onSchedule, h'.queued⟩

/-- The queue is worked off in as many turns as it has tasks: nobody gets into it meanwhile. -/
theorem Queued.drain (h : m.Queued []) (cast : Cast) {turns : Nat}
    (hturns : m.queue.length ≤ turns) :
    LeadsOn cast m (drain cast turns m) ∧ (Ensemble.drain cast turns m).queue = [] := by
  induction turns generalizing m with
  | zero =>
    exact ⟨⟨.refl m, h⟩, List.length_eq_zero_iff.mp (Nat.le_zero.mp hturns)⟩
  | succ turns ih =>
    unfold Ensemble.drain
    split
    · rename_i hempty
      exact ⟨⟨.refl m, h⟩, hempty⟩
    · rename_i n rest hqueue
      have hrest : Lists m.tasks.length rest := by
        have hlists := hqueue ▸ h.queue
        exact ⟨(List.nodup_cons.mp hlists.nodup).2,
          fun k hk => hlists.lt k (List.mem_cons_of_mem _ hk)⟩
      have hfirst : ({ m with queue := rest } : Ensemble).Queued [n] := by
        refine ⟨hrest, h.sleepers, fun k t ht hgoesOn => ?_, h.waits⟩
        have hmem := (h.goesOn k t ht hgoesOn).resolve_right (by simp)
        rw [hqueue, List.mem_cons] at hmem
        exact hmem.symm.imp_right fun hk => by simp [hk]
      have hlength : (({ m with queue := rest } : Ensemble).turn cast n).queue.length ≤ turns := by
        rw [(queue_turn cast _ n).1]
        rw [hqueue, List.length_cons] at hturns
        exact Nat.le_of_succ_le_succ hturns
      obtain ⟨hleads, hempty⟩ := ih (hfirst.turn cast) hlength
      refine ⟨⟨(onSchedule_queue cast m rest).trans ?_, hleads.queued⟩, hempty⟩
      exact .head (.turn n) trivial hleads.onSchedule

theorem Queued.enqueueAll (h : m.Queued []) (cast : Cast) {entries : List (Nat × Nat)}
    (hentries : ∀ e ∈ entries, e.2 < m.tasks.length) :
    LeadsOn cast m (entries.foldl (fun m e => m.enqueue e.2) m) := by
  induction entries generalizing m with
  | nil => exact ⟨.refl m, h⟩
  | cons e entries ih =>
    obtain ⟨hfirst, hothers⟩ := List.forall_mem_cons.mp hentries
    have hqueued : (m.enqueue e.2).Queued [] := Queued.enqueue (h.mono (by simp)) hfirst
    have hrest := ih hqueued (by simpa using hothers)
    exact ⟨(onSchedule_enqueue cast m e.2).trans hrest.onSchedule, hrest.queued⟩

theorem mem_dues_iff {ms k : Nat} :
    (ms, k) ∈ m.dues ↔ k ∈ m.sleepers ∧ (m.task? k).bind Task.dueMs? = some ms := by
  unfold dues
  rw [List.mem_filterMap]
  constructor
  · rintro ⟨k', hk, hdue⟩
    obtain ⟨ms', hms, heq⟩ := Option.map_eq_some_iff.mp hdue
    cases heq
    exact ⟨hk, hms⟩
  · rintro ⟨hk, hdue⟩
    exact ⟨k, hk, by rw [hdue]; rfl⟩

/-- Nobody who waits is due before the first one is. -/
theorem Queued.nextDue?_le (h : m.Queued []) {k : Nat} {t : Task} {untilMs : Nat}
    (ht : m.task? k = some t) (hdue : t.state.dueMs? = some untilMs) :
    ∃ due, m.nextDue? = some due ∧ due ≤ untilMs := by
  have hmem : untilMs ∈ m.dues.map (·.1) := by
    refine List.mem_map.mpr ⟨(untilMs, k), mem_dues_iff.mpr ⟨h.waits k t untilMs ht hdue, ?_⟩, rfl⟩
    rw [ht, Option.bind_some, Task.dueMs?_eq, hdue]
  unfold nextDue?
  cases hmin : (m.dues.map (·.1)).min? with
  | none =>
    rw [List.min?_eq_none_iff.mp hmin] at hmem
    cases hmem
  | some due => exact ⟨due, rfl, (List.min?_eq_some_iff.mp hmin).2 untilMs hmem⟩

/-- Time may jump to a moment when nobody can go on before it. -/
theorem Queued.jumpTo (h : m.Queued []) (cast : Cast) (hempty : m.queue = []) {ms : Nat}
    (hms : ∀ due, m.nextDue? = some due → ms ≤ due) : LeadsOn cast m (jumpTo ms m) := by
  let passed : Ensemble := { m with scene := m.scene.pass (ms - m.scene.nowMs) }
  have hpassed : passed.Queued [] := ⟨h.queue, h.sleepers, h.goesOn, h.waits⟩
  have hmove : m.Schedules
      (.change (m.scene.pass (ms - m.scene.nowMs)) m.queue m.sleepers) := by
    refine .inr ⟨_, rfl, ?_⟩
    by_cases hnow : ms ≤ m.scene.nowMs
    · exact .inl (Nat.sub_eq_zero_of_le hnow)
    · refine .inr fun k t ht => ⟨?_, fun untilMs hdue => ?_⟩
      · refine Bool.eq_false_iff.mpr fun hgoesOn => ?_
        have hmem := h.goesOn k t ht hgoesOn
        simp [hempty] at hmem
      · obtain ⟨due, hnext, hle⟩ := h.nextDue?_le ht hdue
        have hbound := hms due hnext
        omega
  have hentries : ∀ e ∈ (m.dues.filter (·.1 ≤ ms)).mergeSort fun a b => a.1 ≤ b.1,
      e.2 < m.tasks.length := by
    intro e he
    have hdue := (List.mem_filter.mp (List.mem_mergeSort.mp he)).1
    exact h.sleepers.lt e.2 (mem_dues_iff.mp hdue).1
  have hleads := hpassed.enqueueAll cast hentries
  exact ⟨.head _ hmove hleads.onSchedule, hleads.queued⟩

/-- Time may always jump to the moment at which the first task is due. -/
theorem Queued.jumpToNext (h : m.Queued []) (cast : Cast) (hempty : m.queue = []) {due : Nat}
    (hnext : m.nextDue? = some due) : LeadsOn cast m (Ensemble.jumpTo due m) := by
  refine h.jumpTo cast hempty fun other hother => ?_
  rw [hnext] at hother
  exact Nat.le_of_eq (Option.some.inj hother)

theorem Queued.elapseTo (h : m.Queued []) (cast : Cast) (hcount : m.tasks.length ≤ maxTurns)
    (ms turns : Nat) : LeadsOn cast m (elapseTo cast ms turns m) := by
  induction turns generalizing m with
  | zero => exact ⟨.refl m, h⟩
  | succ turns ih =>
    obtain ⟨hdrained, hempty⟩ := h.drain cast (Nat.le_trans h.queue.length_le hcount)
    have hlast : (∀ due, (Ensemble.drain cast maxTurns m).nextDue? = some due → ms ≤ due) →
        LeadsOn cast m (Ensemble.jumpTo ms (Ensemble.drain cast maxTurns m)) :=
      fun hms => hdrained.trans (hdrained.queued.jumpTo cast hempty hms)
    unfold Ensemble.elapseTo
    dsimp only
    cases hnext : (Ensemble.drain cast maxTurns m).nextDue? with
    | none => exact hlast fun due hdue => by rw [hnext] at hdue; cases hdue
    | some due =>
      dsimp only
      split
      · have hjumped := hdrained.trans (hdrained.queued.jumpToNext cast hempty hnext)
        exact hjumped.trans (ih hjumped.queued (hjumped.onSchedule.length_eq ▸ hcount))
      · rename_i hlate
        refine hlast fun other hother => ?_
        rw [hnext] at hother
        cases hother
        omega

theorem Queued.elapse (h : m.Queued []) (cast : Cast) (hcount : m.tasks.length ≤ maxTurns)
    (ms : Nat) : LeadsOn cast m (elapse cast ms m) := by
  unfold Ensemble.elapse
  split
  · exact ⟨.refl m, h⟩
  · exact h.elapseTo cast hcount _ _

theorem Queued.await (h : m.Queued []) (cast : Cast) (hcount : m.tasks.length ≤ maxTurns)
    (n : Nat) : LeadsOn cast m (await cast n m).1 := by
  have hwithin : ∀ turns (m : Ensemble), m.Queued [] → m.tasks.length ≤ maxTurns →
      LeadsOn cast m (awaitWithin cast n turns m) := by
    intro turns
    induction turns with
    | zero => exact fun m h _ => ⟨.refl m, h⟩
    | succ turns ih =>
      intro m h hcount
      obtain ⟨hdrained, hempty⟩ := h.drain cast (Nat.le_trans h.queue.length_le hcount)
      unfold awaitWithin
      split
      · exact ⟨.refl m, h⟩
      · dsimp only
        split
        · exact hdrained
        · cases hnext : (Ensemble.drain cast maxTurns m).nextDue? with
          | none => exact hdrained
          | some due =>
            have hjumped := hdrained.trans (hdrained.queued.jumpToNext cast hempty hnext)
            exact hjumped.trans (ih _ hjumped.queued (hjumped.onSchedule.length_eq ▸ hcount))
  exact hwithin maxTurns m h hcount

end Ensemble

end DeviceFlow.Rehearsal
