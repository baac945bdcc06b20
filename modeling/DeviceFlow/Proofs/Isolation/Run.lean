import DeviceFlow.Proofs.Isolation.Stage
import DeviceFlow.Proofs.Manager.Call

/-!
# Runs on different devices

The main statement about runs beside others: a run that is neither stopped nor aborted comes to
the record that it would come to alone, and makes the same requests on its way, whatever happens
on other devices.

The schedule that tasks get their turns on lets time pass only while all of them wait. So calls
of the manager that neither stop nor abort a run do not disturb it.
-/

namespace DeviceFlow.Rehearsal

/-! ## A schedule disturbs nobody -/

/-- A call neither stops nor aborts a run on a device. -/
def Call.Spares (n : Nat) (device : String) : Call → Prop
  | .stop other => other ≠ device
  | .stopAll => False
  | .abort k => k ≠ n
  | .start .. | .performSingle .. | .startSingle .. | .elapse _ | .await _ => True

namespace Ensemble

variable {cast : Cast} {m m' : Ensemble} {n : Nat} {device : String}

theorem undisturbed_append {moves more : List Move} :
    m.Undisturbed cast n device (moves ++ more) ↔
      m.Undisturbed cast n device moves ∧ (m.play cast moves).Undisturbed cast n device more := by
  induction moves generalizing m with
  | nil => exact (and_iff_right trivial).symm
  | cons move moves ih => exact (and_congr_right fun _ => ih).trans and_assoc.symm

/-- While a run is underway, the schedule lets no time pass that the run does not wait for. -/
theorem Schedules.permits {move : Move} (h : m.Schedules move) (hn : n < m.tasks.length)
    (hnone : m.completion? n = none) : m.Permits cast n device move := by
  cases move with
  | turn k => trivial
  | change scene queue sleepers =>
    rcases h with rfl | ⟨ms, rfl, rfl | hwaits⟩
    · exact ⟨0, ⟨rfl, rfl, rfl, rfl, rfl, rfl⟩, .inl rfl⟩
    · exact ⟨0, .refl device _, .inl rfl⟩
    · refine ⟨ms, .refl device _, .inr ?_⟩
      have ht : m.task? n = some m.tasks[n] := List.getElem?_eq_getElem hn
      obtain ⟨hgoesOn, hdue⟩ := hwaits n _ ht
      rw [completion?_of_task? ht] at hnone
      rw [ht, Option.bind_some, Task.dueMs?_eq]
      cases hstate : m.tasks[n].state with
      | applying | ready => simp [hstate, TaskState.goesOn] at hgoesOn
      | «over» c => simp [Task.completion?, hstate] at hnone
      | busy untilMs | pausing untilMs => exact ⟨untilMs, rfl, hdue untilMs (by rw [hstate]; rfl)⟩
  | start | single | stop | stopAll | abort | answer | breakDown => exact h.elim

theorem OnSchedule.exists_undisturbed (h : OnSchedule cast m m') (hn : n < m.tasks.length)
    (device : String) :
    ∃ moves, m.Undisturbed cast n device moves ∧ m.play cast moves = m' := by
  induction h with
  | refl m => exact ⟨[], trivial, rfl⟩
  | @head m m' move hmove hrest ih =>
    have hlength := OnSchedule.length_eq (.head move hmove (.refl (move.apply cast m)))
    obtain ⟨moves, hmoves, hplayed⟩ := ih (hlength ▸ hn)
    exact ⟨move :: moves, ⟨hmove.permits hn, hmoves⟩, hplayed⟩

/-- Calls neither stop nor abort a run before it is over. -/
def SparedBy (cast : Cast) (n : Nat) (device : String) : Ensemble → List Call → Prop
  | _, [] => True
  | m, call :: calls =>
    (m.completion? n = none → call.Spares n device) ∧ call.IsProper cast m ∧
      SparedBy cast n device (call.apply cast m) calls

/-- The move that a call begins with does not disturb a run that the call spares. -/
theorem Call.permits {call : Call} (h : call.Spares n device) {move : Move}
    (hmove : call.move? = some move) : m.Permits cast n device move := by
  cases call with
  | start | performSingle | startSingle =>
    cases hmove
    trivial
  | stop | stopAll | abort =>
    cases hmove
    exact h
  | elapse | await => cases hmove

/-- No move takes a task away. -/
theorem Changes.lt_length (h : Changes m m') (hn : n < m.tasks.length) : n < m'.tasks.length := by
  cases h with
  | calm _ hold _ =>
    obtain ⟨t', ht', _⟩ := hold n _ (List.getElem?_eq_getElem hn)
    exact task?_lt ht'
  | settled before state scene registry =>
    rw [length_settle]
    exact hn

theorem play_append (cast : Cast) (m : Ensemble) (moves more : List Move) :
    m.play cast (moves ++ more) = (m.play cast moves).play cast more :=
  List.foldl_append

/-- A call that neither stops nor aborts a run does not disturb it. -/
theorem exists_undisturbed_of_spares (hfits : m.Fits) (hqueued : m.Queued [])
    (hn : n < m.tasks.length) {call : Call} (hproper : call.IsProper cast m)
    (hspares : m.completion? n = none → call.Spares n device) :
    ∃ moves, m.Undisturbed cast n device moves ∧ m.play cast moves = call.apply cast m ∧
      n < (call.apply cast m).tasks.length := by
  have hleads := hqueued.call hproper
  have hlength := hleads.onSchedule.length_eq
  unfold Call.begun at hleads hlength
  cases hmove : call.move? with
  | none =>
    rw [hmove] at hleads hlength
    obtain ⟨moves, hmoves, hplayed⟩ := hleads.onSchedule.exists_undisturbed hn device
    exact ⟨moves, hmoves, hplayed, hlength ▸ hn⟩
  | some move =>
    rw [hmove] at hleads hlength
    have hn' : n < (move.apply cast m).tasks.length := (changes_apply hfits cast move).lt_length hn
    obtain ⟨moves, hmoves, hplayed⟩ := hleads.onSchedule.exists_undisturbed hn' device
    exact ⟨move :: moves, ⟨fun hnone => Call.permits (hspares hnone) hmove, hmoves⟩, hplayed,
      hlength ▸ hn'⟩

/-- Calls that neither stop nor abort a run do not disturb it. -/
theorem exists_undisturbed_of_sparedBy (hfits : m.Fits) (hqueued : m.Queued [])
    (hn : n < m.tasks.length) {calls : List Call} (h : m.SparedBy cast n device calls) :
    ∃ moves, m.Undisturbed cast n device moves ∧ m.play cast moves = m.callAll cast calls := by
  induction calls generalizing m with
  | nil => exact ⟨[], trivial, rfl⟩
  | cons call calls ih =>
    obtain ⟨hspares, hproper, hcalls⟩ := h
    obtain ⟨moves, hmoves, hplayed, hn'⟩ :=
      exists_undisturbed_of_spares hfits hqueued hn hproper hspares
    have hfits' : (call.apply cast m).Fits := hplayed ▸ hfits.play cast moves
    obtain ⟨more, hmore, hend⟩ := ih hfits' (hqueued.call hproper).queued hn' hcalls
    refine ⟨moves ++ more, undisturbed_append.mpr ⟨hmoves, hplayed ▸ hmore⟩, ?_⟩
    rw [play_append, hplayed, hend]
    rfl

end Ensemble

/-! ## A run beside others -/

namespace Ensemble

variable {cast : Cast} {m m' : Ensemble} {n : Nat} {device : String} {final : Scene}
  {result : Ending} {todo : List Request}

theorem Sound.play (h : m.Sound) (hserial : cast.AnswersPerSerial) (moves : List Move) :
    (m.play cast moves).Sound := by
  induction moves generalizing m with
  | nil => exact h
  | cons move moves ih => exact ih (h.apply hserial move)

/-- A run that nothing disturbs goes through the requests of the run alone, in their order. -/
theorem Stage.play (hserial : cast.AnswersPerSerial) (hsound : m.Sound)
    (h : m.Stage cast n device final result todo) {moves : List Move}
    (hmoves : m.Undisturbed cast n device moves) :
    ∃ todo', todo = m.requestsOf cast n moves ++ todo' ∧
      (m.play cast moves).Stage cast n device final result todo' := by
  induction moves generalizing m todo with
  | nil => exact ⟨todo, rfl, h⟩
  | cons move moves ih =>
    obtain ⟨hmove, hmoves⟩ := hmoves
    obtain ⟨rest, rfl, hstage, _⟩ := h.apply hserial hsound hmove
    obtain ⟨todo', rfl, hlast⟩ := ih (hsound.apply hserial move) hstage hmoves
    exact ⟨todo', (List.append_assoc ..).symm, hlast⟩

/-- A task that goes on without a request is over. -/
theorem completion?_goOn_of_idle {t : Task} {plan : Plan Ending} (ht : m.task? n = some t)
    (hidle : cast.asked t.device t.isCancelled plan m.scene = []) :
    (m.goOn cast n t plan).completion? n ≠ none := by
  cases plan with
  | done e =>
    have hover : (m.goOn cast n t (.done e)).completion? n = some (.ended e) :=
      completion?_settle_over ht t _
    simp [hover]
  | ask q next =>
    unfold Cast.asked at hidle
    cases hidle

/-- A task that is due and makes no request in its turn is over. -/
theorem Underway.completion?_turn_of_idle {t : Task}
    (h : m.Underway cast n device final result todo t)
    (hdue : ∀ untilMs, t.dueMs? = some untilMs → untilMs ≤ m.scene.nowMs)
    (hidle : m.requestsIn cast n = []) : (m.turn cast n).completion? n ≠ none := by
  have ⟨ht, _, hcancelled, haborted, _⟩ := h
  unfold requestsIn at hidle
  cases hstate : t.state with
  | applying | «over» =>
    have hholder := h.isHolder
    simp [Task.isHolder, hstate] at hholder
  | ready plan =>
    simp only [ht, haborted, hstate, Bool.false_eq_true, if_false] at hidle
    rw [turn_of_ready ht hstate haborted]
    exact completion?_goOn_of_idle ht hidle
  | busy untilMs resume =>
    have hnow : ¬ m.scene.nowMs < untilMs :=
      Nat.not_lt.mpr (hdue untilMs (by simp [Task.dueMs?, hstate]))
    simp only [ht, haborted, hstate, hnow, Bool.false_eq_true, if_false] at hidle
    rw [turn_of_busy ht hstate haborted, if_neg hnow]
    exact completion?_goOn_of_idle (m := { m with scene := (resume m.scene).1 }) ht hidle
  | pausing untilMs resume =>
    have hnow : untilMs ≤ m.scene.nowMs := hdue untilMs (by simp [Task.dueMs?, hstate])
    simp only [ht, haborted, hstate, hnow, Bool.false_eq_true, if_false, if_true] at hidle
    rw [turn_of_pausing ht hstate haborted, if_pos hnow]
    exact completion?_goOn_of_idle ht hidle

/-- A run that is not over can be led on: as soon as it is due, its turn brings it further. -/
theorem Stage.exists_further (hserial : cast.AnswersPerSerial)
    (h : m.Stage cast n device final result todo) (hnone : m.completion? n = none) :
    ∃ moves todo', m.Undisturbed cast n device moves ∧
      (m.play cast moves).Stage cast n device final result todo' ∧
      (todo'.length < todo.length ∨ (m.play cast moves).completion? n ≠ none) := by
  cases h with
  | «over» hover =>
    rw [hover] at hnone
    cases hnone
  | @underway t _ h =>
    let ms := t.dueMs?.getD 0 - m.scene.nowMs
    let waited := (Move.change (m.scene.pass ms) m.queue m.sleepers).apply cast m
    have hdue : ∀ untilMs, t.dueMs? = some untilMs → untilMs = m.scene.nowMs + ms := by
      intro untilMs hdue
      have hnow := h.pending.nowMs_le (t.dueMs?_eq ▸ hdue)
      have hms : ms = untilMs - m.scene.nowMs := by simp [ms, hdue]
      omega
    have hpermits : m.Permits cast n device (.change (m.scene.pass ms) m.queue m.sleepers) := by
      refine ⟨ms, .refl device _, ?_⟩
      cases hwaits : t.dueMs? with
      | none => exact .inl (by simp [ms, hwaits])
      | some untilMs =>
        exact .inr ⟨untilMs, by rw [h.task]; exact hwaits, Nat.le_of_eq (hdue untilMs hwaits).symm⟩
    have hwaited : waited.Underway cast n device final result todo t := h.change hpermits
    obtain ⟨todo', htodo, hstage, _⟩ := hwaited.turn hserial
    refine ⟨[.change (m.scene.pass ms) m.queue m.sleepers, .turn n], todo',
      ⟨fun _ => hpermits, fun _ => trivial, trivial⟩, hstage, ?_⟩
    by_cases hidle : waited.requestsIn cast n = []
    · refine .inr (hwaited.completion?_turn_of_idle (fun untilMs hwaits => ?_) hidle)
      exact Nat.le_of_eq (hdue untilMs hwaits)
    · left
      have hlength := List.length_pos_iff.mpr hidle
      rw [htodo, List.length_append]
      omega

/-- A run that nothing has disturbed can always be led to its end without disturbing it. -/
theorem Stage.exists_end (hserial : cast.AnswersPerSerial) (hsound : m.Sound)
    (h : m.Stage cast n device final result todo) :
    ∃ moves, m.Undisturbed cast n device moves ∧
      (m.play cast moves).completion? n = some (.ended result) := by
  have hended : ∀ {m' : Ensemble} {rest : List Request},
      m'.Stage cast n device final result rest → m'.completion? n ≠ none →
        m'.completion? n = some (.ended result) := by
    intro m' rest hstage hover
    obtain ⟨c, hc⟩ := Option.ne_none_iff_exists'.mp hover
    rw [hc, (hstage.of_completion? hc).1]
  -- By induction on the number of requests that are left: each due turn makes one at least.
  induction hlength : todo.length using Nat.strongRecOn generalizing m todo with
  | ind length ih =>
    by_cases hnone : m.completion? n = none
    · obtain ⟨moves, todo', hmoves, hstage, hfurther⟩ := h.exists_further hserial hnone
      rcases hfurther with hless | hover
      · obtain ⟨more, hmore, hend⟩ :=
          ih todo'.length (hlength ▸ hless) (hsound.play hserial moves) hstage rfl
        refine ⟨moves ++ more, undisturbed_append.mpr ⟨hmoves, hmore⟩, ?_⟩
        rw [play_append, hend]
      · exact ⟨moves, hmoves, hended hstage hover⟩
    · exact ⟨[], trivial, hended h hnone⟩

/-- What a run does beside others in some moves, told by what it would do alone. -/
structure GoesAlone (cast : Cast) (m : Ensemble) (n : Nat) (device : String) (moves : List Move)
    (todo : List Request) (final : Scene) (record : RunRecord) : Prop where
  /-- When the run is over, it has given back its record, and has made all of its requests. -/
  ended : ∀ c, (m.play cast moves).completion? n = some c →
    c = .ended (.ran record) ∧ m.requestsOf cast n moves = todo
  /-- Until then it makes them one after the other. -/
  underway : m.requestsOf cast n moves <+: todo
  /-- At the moment of its end, the time and all that the device has seen are the same. -/
  final : ∀ move, (m.play cast moves).completion? n = none →
    (m.play cast moves).Permits cast n device move →
    (move.apply cast (m.play cast moves)).completion? n ≠ none →
      (move.apply cast (m.play cast moves)).scene.Alike device final
  /-- It can always come to its end. -/
  progress : ∃ more, (m.play cast moves).Undisturbed cast n device more ∧
    ((m.play cast moves).play cast more).completion? n = some (.ended (.ran record))

theorem Stage.goesAlone (hserial : cast.AnswersPerSerial) (hsound : m.Sound) {record : RunRecord}
    (h : m.Stage cast n device final (.ran record) todo) {moves : List Move}
    (hmoves : m.Undisturbed cast n device moves) :
    m.GoesAlone cast n device moves todo final record := by
  obtain ⟨rest, rfl, hstage⟩ := h.play hserial hsound hmoves
  have hplayed := hsound.play hserial moves
  refine ⟨fun c hc => ?_, List.prefix_append .., fun move hnone hpermits hover => ?_,
    hstage.exists_end hserial hplayed⟩
  · obtain ⟨hend, rfl⟩ := hstage.of_completion? hc
    exact ⟨hend, (List.append_nil _).symm⟩
  · obtain ⟨_, _, _, hfinal⟩ := hstage.apply hserial hplayed fun _ => hpermits
    exact hfinal hnone hover

theorem apply_start_of_ok {w : Workflow} {vars : Variables}
    (h : m.start cast device w vars = .ok (m', n)) :
    (Move.start device w vars).apply cast m = m' := by
  rw [Move.apply, h]

/-- When the helpers answer per serial, a run that is neither stopped nor aborted goes beside others
    as it goes alone: it makes the same requests, and comes to the same record, whatever runs and
    single steps are started on other devices, are stopped, aborted, or broken down, and in whatever
    order tasks get their turns. Alone it may be in any scene that is alike for its device. The
    calls of the manager, with all that its schedule does, are such moves. -/
theorem goesAlone_play (hserial : cast.AnswersPerSerial) (scene : Scene) (before : List Move)
    {w : Workflow} {vars : Variables} {alone : Scene} {record : RunRecord}
    (hstart : ((opening scene).play cast before).start cast device w vars = .ok (m, n))
    (halike : ((opening scene).play cast before).scene.Alike device alone)
    (hgoes : cast.Goes device ((⟨cast.rig, device⟩ : Session).execute w vars) alone todo final
      record) :
    (∀ moves, m.Undisturbed cast n device moves →
      m.GoesAlone cast n device moves todo final record) ∧
    (m.Queued [] → ∀ calls, m.SparedBy cast n device calls →
      ∃ moves, m.Undisturbed cast n device moves ∧ m.play cast moves = m.callAll cast calls) := by
  let m₀ := (opening scene).play cast before
  have hfree : m₀.registry.isRunning device = false := by
    refine Bool.eq_false_iff.mpr fun hrunning => ?_
    rw [start_of_isRunning hrunning] at hstart
    cases hstart
  have hsound : m.Sound := by
    have hplayed := sound_play hserial scene before
    exact apply_start_of_ok hstart ▸ hplayed.apply hserial (.start device w vars)
  obtain ⟨m', hstart', hscene, _, htask⟩ := start_eq_ok cast hfree w vars
  obtain ⟨rfl, rfl⟩ : m' = m ∧ m₀.tasks.length = n := by
    simpa using hstart'.symm.trans hstart
  have ht : m'.task? m₀.tasks.length = some (runTask cast m₀ device w vars) := by
    rw [htask, if_pos rfl]
  have hlike : m'.scene.Alike device alone := by
    rw [hscene]
    exact (Scene.Alike.keep device m₀.scene _).symm.trans halike
  have hdestined : cast.Destined device
      ((⟨cast.rig, device⟩ : Session).execute w vars >>= fun record => .done (Ending.ran record))
      m'.scene todo final (Ending.ran record) :=
    ⟨alone, hlike, hgoes.bind_done Ending.ran⟩
  constructor
  · intro moves hmoves
    exact Stage.goesAlone hserial hsound (.underway ⟨ht, rfl, rfl, rfl, hdestined⟩) hmoves
  · intro hqueued calls hcalls
    exact exists_undisturbed_of_sparedBy hsound.fits hqueued (task?_lt ht) hcalls

/-- A workflow with a single tap, after which the screen is looked at. -/
def tapOnce (stepId : String) : Workflow :=
  .ofSteps "tap-once"
    [(Step.new "start" .start).andThen stepId,
      (Step.new stepId (.tap (some 1) (some 2))).andThen "look",
      Step.new "look" (.branch (some "exists") (some ⟨.text, "a"⟩) none none)]

/-- Every call takes longer than the one before, and one device answers none of them. The screen of
    each shows its serial. A listener breaks down at the end of one step. -/
def unlikeDevices : Cast where
  settings := .default
  device := .acting fun serial asked =>
    (5 * asked.length, if serial = "b" then .error (.other "device offline") else .ok "")
  player := .absent
  screen := .acting fun serial _ => (0, .ok ⟨[⟨⟨serial, "", "", "", ""⟩, []⟩]⟩)
  store := .absent
  logsEvents := false
  breaksAtEndOf := some "press"

/-- A device is to tap. -/
def tappingOnB : Ensemble :=
  (opening (.opening .empty)).play unlikeDevices [.start "b" (tapOnce "press") Dict.empty, .turn 0]

/-- Another device is to tap as well. -/
def admittedOnA : Ensemble :=
  (Move.start "a" (tapOnce "tap") Dict.empty).apply unlikeDevices tappingOnB

/-- The first device is told to stop while both tap, and its run breaks down. -/
def brokenOnB : List Move :=
  [.turn 1, .stop "b",
    .change ((admittedOnA.play unlikeDevices [.turn 1, .stop "b"]).scene.pass 5) [] [],
    .turn 0, .turn 1]

/-- A run on one device goes as it goes alone, though a run on another one that goes on at the
    same time is stopped and breaks down. -/
theorem goesAlone_beside_broken :
    (∃ todo final record,
      unlikeDevices.Goes "a"
        ((⟨unlikeDevices.rig, "a"⟩ : Session).execute (tapOnce "tap") Dict.empty)
        (.opening .empty) todo final record ∧
      admittedOnA.GoesAlone unlikeDevices 1 "a" brokenOnB todo final record) ∧
    ((admittedOnA.play unlikeDevices brokenOnB).completion? 1).isSome = true ∧
    ((admittedOnA.play unlikeDevices brokenOnB).registry.lastRecord? "b").map (·.error) =
      some (some "run task panicked or was aborted") ∧
    ∃ moves, admittedOnA.Undisturbed unlikeDevices 1 "a" moves ∧
      admittedOnA.play unlikeDevices moves =
        admittedOnA.callAll unlikeDevices [.stop "b", .await 1] := by
  have hserial : unlikeDevices.AnswersPerSerial :=
    Cast.answersPerSerial_of_screen fun _ _ hscreen => by cases hscreen
  have hgoes : unlikeDevices.Goes "a"
      ((⟨unlikeDevices.rig, "a"⟩ : Session).execute (tapOnce "tap") Dict.empty) (.opening .empty)
      _ _ _ := ⟨rfl, rfl, by decide +kernel, by decide +kernel⟩
  have hasked : tappingOnB.scene.asked.get? "a" = none :=
    Option.isNone_iff_eq_none.mp (by decide +kernel)
  have halike : tappingOnB.scene.Alike "a" (.opening .empty) :=
    ⟨by decide +kernel, by decide +kernel, hasked.symm, by decide +kernel, by decide +kernel,
      by decide +kernel⟩
  obtain ⟨m', hstart, _⟩ := start_eq_ok (m := tappingOnB) unlikeDevices
    (by decide +kernel : tappingOnB.registry.isRunning "a" = false) (tapOnce "tap") Dict.empty
  have hadmitted : admittedOnA = m' := apply_start_of_ok hstart
  have hsecond : tappingOnB.tasks.length = 1 := by decide +kernel
  rw [← hadmitted, hsecond] at hstart
  have hmoves : admittedOnA.Undisturbed unlikeDevices 1 "a" brokenOnB := by
    refine ⟨fun _ => trivial, fun _ => ?_, fun _ => ⟨5, .refl "a" _, .inr ⟨5, ?_, ?_⟩⟩,
      fun _ => trivial, fun _ => trivial, trivial⟩
    · show "b" ≠ "a"
      decide
    · decide +kernel
    · decide +kernel
  have hqueued : admittedOnA.Queued [] := by
    have hstarted := (queued_opening (.opening .empty)).start unlikeDevices "b" (tapOnce "press")
      Dict.empty
    have hturned := Queued.turn (n := 0) (hstarted.mono (by simp)) unlikeDevices
    exact hturned.start unlikeDevices "a" (tapOnce "tap") Dict.empty
  have hcalls : admittedOnA.SparedBy unlikeDevices 1 "a" [.stop "b", .await 1] := by
    refine ⟨fun _ => ?_, ⟨?_, fun _ h => by cases h⟩, fun _ => trivial,
      ⟨?_, fun _ h => by cases h⟩, trivial⟩
    · show "b" ≠ "a"
      decide
    · decide +kernel
    · decide +kernel
  obtain ⟨hruns, hschedule⟩ := goesAlone_play hserial (.opening .empty)
    [.start "b" (tapOnce "press") Dict.empty, .turn 0] hstart halike hgoes
  exact ⟨⟨_, _, _, hgoes, hruns brokenOnB hmoves⟩, by decide +kernel, by decide +kernel,
    hschedule hqueued _ hcalls⟩

end Ensemble

end DeviceFlow.Rehearsal
