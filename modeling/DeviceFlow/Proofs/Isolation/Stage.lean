import DeviceFlow.Proofs.Isolation.Alone
import DeviceFlow.Proofs.Isolation.Others

/-!
# Stages of a run beside others

As long as nothing disturbs a run that others go on beside, it is at some stage of the run alone:
it has made the first requests of it, and what is left of it makes the others. Every move leads
from one stage to another.
-/

namespace DeviceFlow.Rehearsal

open Ensemble

/-- The requests that a task makes in its turn. -/
def Ensemble.requestsIn (cast : Cast) (m : Ensemble) (n : Nat) : List Request :=
  match m.task? n with
  | none => []
  | some t =>
    let asked := cast.asked t.device t.isCancelled
    if t.isAborted then []
    else
      match t.state with
      | .applying plan => if m.registry.isRunning t.device then [] else asked plan m.scene
      | .ready plan => asked plan m.scene
      | .busy untilMs resume =>
        if m.scene.nowMs < untilMs then []
        else
          let (scene, plan) := resume m.scene
          asked plan scene
      | .pausing untilMs resume =>
        if untilMs ≤ m.scene.nowMs then asked (resume true) m.scene
        else if t.isCancelled then asked (resume false) m.scene
        else []
      | .over _ => []

/-- The next request of a task that can go on. -/
def Ensemble.nextRequest? (m : Ensemble) (n : Nat) : Option Request :=
  match (m.task? n).map Task.state with
  | some (.ready (.ask q _)) => some q
  | _ => none

/-- The requests that a task makes in a move. -/
def Move.requests (cast : Cast) (m : Ensemble) (n : Nat) : Move → List Request
  | .turn k => if k = n then m.requestsIn cast n else []
  | .answer k _ => if k = n then (m.nextRequest? n).toList else []
  | _ => []

/-- The requests that a task makes in some moves. -/
def Ensemble.requestsOf (cast : Cast) (n : Nat) : Ensemble → List Move → List Request
  | _, [] => []
  | m, move :: moves =>
    move.requests cast m n ++ requestsOf cast n (move.apply cast m) moves

/-- A run on a device is not to notice a move: it is neither stopped nor aborted nor broken down.
    If it is held up, then after a request that is answered at once, as it would be in its turn.
    The surroundings may change where the device sees nothing of it; and time may pass while the
    run waits, up to the moment at which it goes on. -/
def Ensemble.Permits (cast : Cast) (m : Ensemble) (n : Nat) (device : String) : Move → Prop
  | .start .. | .single .. | .turn _ => True
  | .stop other => other ≠ device
  | .stopAll => False
  | .abort k | .breakDown k => k ≠ n
  | .answer k answers => k = n → ∀ t q next, m.task? n = some t → t.state = .ready (.ask q next) →
      (cast.begin device (fun _ => false) q m.scene).2 = .now (answers q) ∧
        m.scene.Alike device (cast.begin device (fun _ => false) q m.scene).1
  | .change scene .. => ∃ ms, (m.scene.pass ms).Alike device scene ∧
      (ms = 0 ∨ ∃ untilMs, (m.task? n).bind Task.dueMs? = some untilMs ∧
        m.scene.nowMs + ms ≤ untilMs)

/-- Nothing disturbs a run on a device until it is over. -/
def Ensemble.Undisturbed (cast : Cast) (n : Nat) (device : String) : Ensemble → List Move → Prop
  | _, [] => True
  | m, move :: moves =>
    (m.completion? n = none → m.Permits cast n device move) ∧
      Undisturbed cast n device (move.apply cast m) moves

/-- What holds of every ensemble that moves lead to. -/
structure Ensemble.Sound (m : Ensemble) : Prop where
  agrees : m.Agrees
  fits : m.Fits
  isLocal : m.IsLocal

/-- The task of a run that nothing has disturbed: it holds its device, and is left with what is left
    of the run alone. -/
structure Ensemble.Underway (cast : Cast) (m : Ensemble) (n : Nat) (device : String) (final : Scene)
    (result : Ending) (todo : List Request) (t : Task) : Prop where
  task : m.task? n = some t
  held : t.held? = some device
  isCancelled : t.isCancelled = false
  isAborted : t.isAborted = false
  pending : cast.Pending device t.state m.scene todo final result

/-- A run that nothing has disturbed is over with its result, or still underway. -/
inductive Ensemble.Stage (cast : Cast) (m : Ensemble) (n : Nat) (device : String) (final : Scene)
    (result : Ending) : List Request → Prop where
  | «over» (h : m.completion? n = some (.ended result)) : Stage cast m n device final result []
  | underway {t : Task} {todo : List Request}
      (h : m.Underway cast n device final result todo t) : Stage cast m n device final result todo

namespace Ensemble

variable {cast : Cast} {m m' : Ensemble} {n : Nat} {device : String} {final : Scene}
  {result : Ending} {todo : List Request}

theorem sound_play (hserial : cast.AnswersPerSerial) (scene : Scene) (moves : List Move) :
    ((opening scene).play cast moves).Sound :=
  ⟨(agrees_opening scene).play cast moves, (fits_opening scene).play cast moves,
    (isLocal_opening scene).play hserial moves⟩

theorem Sound.apply (h : m.Sound) (hserial : cast.AnswersPerSerial) (move : Move) :
    (move.apply cast m).Sound :=
  ⟨h.agrees.apply cast move, (changes_apply h.fits cast move).fits h.fits,
    h.isLocal.apply hserial move⟩

/-- A task that is over remains so. -/
theorem Changes.completion?_eq (h : Changes m m') {c : Completion}
    (hover : m.completion? n = some c) : m'.completion? n = some c := by
  obtain ⟨t, ht, hc⟩ := Option.bind_eq_some_iff.mp hover
  cases h with
  | calm _ hold _ =>
    obtain ⟨t', ht', _, _, hstate⟩ := hold n t ht
    rw [completion?_of_task? ht']
    unfold Task.completion? at hc ⊢
    rw [hstate, hc]
  | settled before state scene registry htask hbegun =>
    rw [completion?_settle (m := { m with scene := scene, registry := registry }) htask, if_neg]
    · exact hover
    · rintro rfl
      rw [ht] at htask
      cases htask
      rw [completion?_eq_none_of_isOver hbegun] at hc
      cases hc

theorem Underway.isHolder {t : Task} (h : m.Underway cast n device final result todo t) :
    t.isHolder = true := (Task.held?_eq_some_iff.mp h.held).1

theorem Underway.device_eq {t : Task} (h : m.Underway cast n device final result todo t) :
    t.device = device := (Task.held?_eq_some_iff.mp h.held).2

theorem Underway.completion? {t : Task} (h : m.Underway cast n device final result todo t) :
    m.completion? n = none := by
  rw [completion?_of_task? h.task]
  apply completion?_eq_none_of_isOver
  have hholder := h.isHolder
  rw [Task.isHolder_eq] at hholder
  simpa using (Bool.and_eq_true_iff.mp hholder).2

/-- A run that nothing has disturbed ends only with its result, when nothing is left to do. -/
theorem Stage.of_completion? (h : m.Stage cast n device final result todo) {c : Completion}
    (hc : m.completion? n = some c) : c = .ended result ∧ todo = [] := by
  cases h with
  | «over» hover =>
    rw [hover] at hc
    exact ⟨(Option.some.inj hc).symm, rfl⟩
  | underway h =>
    rw [h.completion?] at hc
    cases hc

/-- A task that settles in a state is at the stage that the state is at. -/
theorem stage_settle {t : Task} {state : TaskState} (ht : m.task? n = some t)
    (hdevice : t.device = device) (hcancelled : t.isCancelled = false)
    (haborted : t.isAborted = false)
    (hpending : cast.Pending device state m.scene todo final result) :
    (m.settle n t state).Stage cast n device final result todo := by
  have htask : (m.settle n t state).task? n = some (t.inState state) := by
    rw [task?_settle, if_pos rfl, ht]
    rfl
  have hstate := hpending.alike (alike_settle device n t state)
  cases state with
  | applying plan => exact hpending.elim
  | «over» c =>
    obtain ⟨rfl, rfl⟩ := hpending
    exact .over (completion?_of_task? htask)
  | ready | busy | pausing =>
    exact .underway
      ⟨htask, Task.held?_eq_some_iff.mpr ⟨rfl, hdevice⟩, hcancelled, haborted, hstate⟩

/-- A task that goes on makes the next requests, and is at the stage after them. -/
theorem stage_goOn (hserial : cast.AnswersPerSerial) {t : Task} {plan : Plan Ending}
    (ht : m.task? n = some t) (hdevice : t.device = device) (hcancelled : t.isCancelled = false)
    (haborted : t.isAborted = false)
    (h : cast.Destined device plan m.scene todo final result) :
    ∃ todo', todo = cast.asked t.device t.isCancelled plan m.scene ++ todo' ∧
      (m.goOn cast n t plan).Stage cast n device final result todo' ∧
      ((m.goOn cast n t plan).completion? n ≠ none →
        (m.goOn cast n t plan).scene.Alike device final) := by
  obtain ⟨todo', htodo, hpending, hfinal⟩ := h.advance hserial
  subst hdevice
  unfold goOn
  rw [hcancelled]
  generalize cast.advance t.device false plan m.scene = advanced at hpending hfinal ⊢
  obtain ⟨scene, pace⟩ := advanced
  dsimp only at hpending hfinal ⊢
  have htask : ({ m with scene := scene } : Ensemble).task? n = some t := ht
  refine ⟨todo', htodo, stage_settle htask rfl hcancelled haborted hpending, fun hcompletion => ?_⟩
  rw [completion?_settle htask, if_pos rfl] at hcompletion
  have hover : (Task.stateAfter pace).isOver = true := by
    refine Bool.of_not_eq_false fun hgoesOn => hcompletion ?_
    exact completion?_eq_none_of_isOver hgoesOn
  exact (alike_settle (m := { m with scene := scene }) ..).symm.trans (hfinal hover)

/-- A run that is underway makes its next requests in its turn, unless it has still to wait. -/
theorem Underway.turn (hserial : cast.AnswersPerSerial) {t : Task}
    (h : m.Underway cast n device final result todo t) :
    ∃ todo', todo = m.requestsIn cast n ++ todo' ∧
      (m.turn cast n).Stage cast n device final result todo' ∧
      ((m.turn cast n).completion? n ≠ none → (m.turn cast n).scene.Alike device final) := by
  have ⟨ht, _, hcancelled, haborted, hpending⟩ := h
  have hidle : ∃ todo', todo = [] ++ todo' ∧ m.Stage cast n device final result todo' ∧
      (m.completion? n ≠ none → m.scene.Alike device final) :=
    ⟨todo, rfl, .underway h, fun hover => absurd h.completion? hover⟩
  unfold requestsIn
  rw [ht]
  cases hstate : t.state with
  | applying | «over» =>
    have hholder := h.isHolder
    simp [Task.isHolder, hstate] at hholder
  | ready plan =>
    rw [turn_of_ready ht hstate haborted]
    rw [hstate] at hpending
    simp only [haborted, hstate, Bool.false_eq_true, if_false]
    exact stage_goOn hserial ht h.device_eq hcancelled haborted hpending
  | busy untilMs resume =>
    rw [turn_of_busy ht hstate haborted]
    simp only [haborted, hstate, Bool.false_eq_true, if_false]
    split
    · exact hidle
    · rename_i hdue
      rw [hstate] at hpending
      obtain ⟨_, hlocal, hdestined⟩ := hpending
      have hpassed := (Scene.Alike.pass_of_due device (Nat.le_of_not_lt hdue)).symm
      exact stage_goOn (m := { m with scene := (resume m.scene).1 }) hserial ht h.device_eq
        hcancelled haborted (hdestined.resume hlocal hpassed)
  | pausing untilMs resume =>
    rw [turn_of_pausing ht hstate haborted]
    simp only [haborted, hstate, hcancelled, Bool.false_eq_true, if_false]
    split
    · rename_i hdue
      rw [hstate] at hpending
      obtain ⟨_, hdestined⟩ := hpending
      have hpassed := (Scene.Alike.pass_of_due device hdue).symm
      have hgoesOn :=
        stage_goOn hserial ht h.device_eq hcancelled haborted (hdestined.alike hpassed)
      rwa [hcancelled] at hgoesOn
    · exact hidle

/-- A task that is over makes no requests. -/
theorem requests_of_over {c : Completion} (h : m.completion? n = some c) (move : Move) :
    move.requests cast m n = [] := by
  obtain ⟨t, ht, hc⟩ := Option.bind_eq_some_iff.mp h
  obtain ⟨c, hstate⟩ : ∃ c, t.state = .over c := by
    cases hstate : t.state with
    | «over» c => exact ⟨c, rfl⟩
    | applying | ready | busy | pausing => simp [Task.completion?, hstate] at hc
  cases move with
  | turn k => simp [Move.requests, requestsIn, ht, hstate]
  | answer k answers => simp [Move.requests, nextRequest?, ht, hstate]
  | start | single | stop | stopAll | abort | breakDown | change => rfl

/-- A run that is underway stays as it is in a move that does not concern it. -/
theorem Underway.unseen (hserial : cast.AnswersPerSerial) (hsound : m.Sound) {t : Task}
    (h : m.Underway cast n device final result todo t) {move : Move}
    (hmove : ¬ m.Concerns n device move) :
    (move.apply cast m).Underway cast n device final result todo t := by
  have hheld : m.held? n = some device := by rw [held?_eq_of_task? h.task, h.held]
  obtain ⟨htask, halike⟩ := unseen_apply hserial hsound.agrees hsound.isLocal hheld hmove
  exact ⟨htask.trans h.task, h.held, h.isCancelled, h.isAborted, h.pending.alike halike⟩

/-- A run that is held up after a request has made this one, and goes on after it. -/
theorem Underway.answer (hserial : cast.AnswersPerSerial) {t : Task}
    (h : m.Underway cast n device final result todo t) {answers : (q : Request) → q.Answer}
    (hpermits : m.Permits cast n device (.answer n answers)) :
    ∃ todo' t', todo = (Move.answer n answers).requests cast m n ++ todo' ∧
      ((Move.answer n answers).apply cast m).Underway cast n device final result todo' t' := by
  have ⟨ht, _, hcancelled, haborted, hpending⟩ := h
  cases hstate : t.state with
  | applying | busy | pausing | «over» =>
    refine ⟨todo, t, by simp [Move.requests, nextRequest?, ht, hstate], ?_⟩
    simpa [Move.apply, ht, hstate] using h
  | ready plan =>
    cases plan with
    | done e =>
      refine ⟨todo, t, by simp [Move.requests, nextRequest?, ht, hstate], ?_⟩
      simpa [Move.apply, ht, hstate] using h
    | ask q next =>
      obtain ⟨hanswer, halike⟩ := hpermits rfl t q next ht hstate
      rw [hstate] at hpending
      obtain ⟨_, todo', rfl, hawaits⟩ := Cast.Destined.step hserial hpending
      generalize cast.begin device (fun _ => false) q m.scene = begun at hanswer halike hawaits
      obtain ⟨scene, turn⟩ := begun
      dsimp only at hanswer halike
      subst hanswer
      have hsettled : (Move.answer n answers).apply cast m =
          m.settle n t (.ready (next (answers q))) := by
        simp [Move.apply, ht, hstate]
      rw [hsettled]
      refine ⟨todo', t.inState (.ready (next (answers q))),
        by simp [Move.requests, nextRequest?, ht, hstate], ?_, ?_, hcancelled, haborted, ?_⟩
      · rw [task?_settle, if_pos rfl, ht]
        rfl
      · exact Task.held?_eq_some_iff.mpr ⟨rfl, h.device_eq⟩
      · exact (Cast.Destined.alike hawaits halike.symm).alike (alike_settle ..)

/-- While a run waits, time may pass, and its device sees nothing of what else changes. -/
theorem Underway.change {t : Task} (h : m.Underway cast n device final result todo t)
    {scene : Scene} {queue sleepers : List Nat}
    (hpermits : m.Permits cast n device (.change scene queue sleepers)) :
    ((Move.change scene queue sleepers).apply cast m).Underway cast n device final result todo
      t := by
  obtain ⟨ms, halike, htime⟩ := hpermits
  have hpassed : cast.Pending device t.state (m.scene.pass ms) todo final result := by
    rcases htime with rfl | ⟨untilMs, hdue, hms⟩
    · exact h.pending.alike ⟨rfl, rfl, rfl, rfl, rfl, rfl⟩
    · rw [h.task, Option.bind_some, Task.dueMs?_eq] at hdue
      exact h.pending.pass hdue hms
  exact ⟨h.task, h.held, h.isCancelled, h.isAborted, hpassed.alike halike⟩

/-- Whatever happens, a run that is not to notice it makes the next requests of the run alone, and
    is at the stage after them. When it ends, the device has seen just what it would have seen. -/
theorem Stage.apply (hserial : cast.AnswersPerSerial) (hsound : m.Sound)
    (h : m.Stage cast n device final result todo) {move : Move}
    (hmove : m.completion? n = none → m.Permits cast n device move) :
    ∃ todo', todo = move.requests cast m n ++ todo' ∧
      (move.apply cast m).Stage cast n device final result todo' ∧
      (m.completion? n = none → (move.apply cast m).completion? n ≠ none →
        (move.apply cast m).scene.Alike device final) := by
  cases h with
  | «over» hover =>
    -- Whatever happens now, and be it to the same device, comes too late for this run.
    refine ⟨[], by rw [requests_of_over hover]; rfl, ?_, fun hnone => ?_⟩
    · exact .over ((changes_apply hsound.fits cast move).completion?_eq hover)
    · rw [hover] at hnone
      cases hnone
  | @underway t _ h =>
    have hpermits := hmove h.completion?
    have hgoesOn : ∀ {move : Move} {todo : List Request} {t : Task},
        (move.apply cast m).Underway cast n device final result todo t →
          (move.apply cast m).Stage cast n device final result todo ∧
          (m.completion? n = none → (move.apply cast m).completion? n ≠ none →
            (move.apply cast m).scene.Alike device final) :=
      fun hafter => ⟨.underway hafter, fun _ hover => absurd hafter.completion? hover⟩
    cases move with
    | start | single => exact ⟨todo, rfl, hgoesOn (h.unseen hserial hsound fun h => h)⟩
    | stop other => exact ⟨todo, rfl, hgoesOn (h.unseen hserial hsound hpermits)⟩
    | stopAll => exact hpermits.elim
    | abort k | breakDown k => exact ⟨todo, rfl, hgoesOn (h.unseen hserial hsound hpermits)⟩
    | turn k =>
      by_cases hk : k = n
      · subst hk
        obtain ⟨todo', htodo, hstage, hfinal⟩ := h.turn hserial
        exact ⟨todo', by simpa [Move.requests] using htodo, hstage, fun _ => hfinal⟩
      · exact ⟨todo, by simp [Move.requests, hk], hgoesOn (h.unseen hserial hsound hk)⟩
    | answer k answers =>
      by_cases hk : k = n
      · subst hk
        obtain ⟨todo', t', htodo, hafter⟩ := h.answer hserial hpermits
        exact ⟨todo', htodo, hgoesOn hafter⟩
      · exact ⟨todo, by simp [Move.requests, hk], hgoesOn (h.unseen hserial hsound hk)⟩
    | change scene queue sleepers => exact ⟨todo, rfl, hgoesOn (h.change hpermits)⟩

end Ensemble

end DeviceFlow.Rehearsal
