import DeviceFlow.Proofs.Cancellation.History
import DeviceFlow.Proofs.Cancellation.Walk
import DeviceFlow.Proofs.Timing.Uncancelled

/-!
# Cancelled runs

The main statement about cancellations: from the moment on at which a run is cancelled while
it waits for its device, its player or its screen, or pauses of its own accord, it calls
nobody and begins no iteration on any level, and it ends as a cancelled run without an error;
unless the pause ends whole all the same, because its time is over as well when the run looks. Then
the run goes on until it asks its token again. This holds of a run at every point of its way,
however far it comes.
-/

namespace DeviceFlow

theorem Request.answered_refusal (q : Request) : Answered true q q.refusal true := by
  cases q with
  | isCancelled => exact .read _ (fun h => h) fun h => h
  | sleep ms => exact .refused ms
  | log | emit | clock | date | perform | play | look | load =>
    exact .other _ (by simp) (by simp) fun h => h

/-- A run that has come so far can always go on to its end, whatever has happened. -/
theorem Plan.exists_coherent_ends {α : Type} (rest : Plan α) {t : List Moment} (hc : Coherent t) :
    ∃ u a, rest.Ends (traceOf u) a ∧ Coherent (t ++ u) := by
  induction rest generalizing t with
  | done a => exact ⟨[], a, Plan.ends_done.mpr ⟨rfl, rfl⟩, by simpa using hc⟩
  | ask q next ih =>
    have hc' : Coherent (t ++ [⟨⟨q, q.refusal⟩, true, true⟩]) := by
      refine ⟨?_, List.pairwise_append.mpr ⟨hc.lasting, by simp, by simp⟩⟩
      intro m hm
      rcases List.mem_append.mp hm with hm | hm
      · exact hc.answered m hm
      · rw [List.mem_singleton.mp hm]
        exact q.answered_refusal
    obtain ⟨u, a, hu, hcu⟩ := ih q.refusal hc'
    refine ⟨⟨⟨q, q.refusal⟩, true, true⟩ :: u, a, Plan.ends_ask.mpr ⟨_, _, rfl, hu⟩, ?_⟩
    simpa using hcu

/-- A run that is told of no cancellation does not end as a cancelled one. -/
theorem Session.status_ne_cancelled {run : Session} {w : Workflow} {vars : Variables}
    {t : List Exchange} {r : RunRecord} (h : (run.execute w vars).Ends t r)
    (ht : Uncancelled t) : r.status ≠ .cancelled := by
  cases Session.course_execute h with
  | @run _ _ _ _ _ _ t v q result hwalk _ =>
    have hresult : ∀ e, result = .error e → e ≠ .cancelled :=
      hwalk.uncancelled fun x hx => ht x (by simp [hx])
    intro hstatus
    unfold Session.conclusion at hstatus
    cases result with
    | ok u => cases hstatus
    | error e => cases e with
      | cancelled => exact hresult _ rfl rfl
      | _ => cases hstatus

/-- Before a cancellation, no exchange tells of one. -/
theorem Moment.not_cancels {m : Moment}
    (h : Answered m.cancelledBefore m.request m.answer m.cancelledAfter)
    (hafter : m.cancelledAfter = false) : ¬ m.toExchange.Cancels := by
  obtain ⟨⟨q, answer⟩, before, after⟩ := m
  obtain rfl : after = false := hafter
  cases q with
  | isCancelled =>
    obtain rfl : answer = false := h.isCancelled_eq_false
    exact Bool.false_ne_true
  | sleep ms =>
    obtain rfl : answer = true := h.sleep_eq_true
    exact fun hcancels => Bool.noConfusion hcancels
  | log | emit | clock | date | perform | play | look | load => exact id

/-- Up to a pause that is cancelled but ends whole, nothing tells of a cancellation. -/
theorem Coherent.uncancelled {t u : List Moment} {m : Moment} (h : Coherent (t ++ m :: u))
    (hbefore : m.cancelledBefore = false) (hm : m.IsWholePause)
    (hu : ∀ n ∈ u, n.request.asksToken = false) : Uncancelled (traceOf (t ++ m :: u)) := by
  intro x hx
  obtain ⟨n, hn, rfl⟩ := List.mem_map.mp hx
  rcases List.mem_append.mp hn with ht | hn
  · -- Nothing before this moment has seen a cancellation, as none is taken back.
    refine Moment.not_cancels (h.answered n (List.mem_append_left _ ht)) ?_
    refine Bool.eq_false_iff.mpr fun hafter => ?_
    rw [h.cancelledBefore ht hafter List.mem_cons_self] at hbefore
    cases hbefore
  · rcases List.mem_cons.mp hn with rfl | hn
    · obtain ⟨ms, hpause⟩ := hm
      rw [hpause]
      exact fun hcancels => Bool.noConfusion hcancels
    · have hasks := hu n hn
      obtain ⟨⟨q, answer⟩, before, after⟩ := n
      cases q with
      | isCancelled | sleep => cases hasks
      | log | emit | clock | date | perform | play | look | load => exact id

namespace Session

/-- The run does not act any more on the rest of its way, and when it has come to its end it is a
    cancelled run without an error. -/
structure StandsStill (u : List Moment) (rest : Plan RunRecord) : Prop where
  idle : ∀ n ∈ u, n.request.acts = false
  ended : ∀ r, rest = .done r → r.status = .cancelled ∧ r.error = none

variable {run : Session} {w : Workflow} {vars : Variables} {t u : List Moment} {m : Moment}
  {rest : Plan RunRecord}

/-- A run that a cancellation halts stands still from then on. -/
theorem standsStill_of_halts (h : (run.execute w vars).Follows (traceOf (t ++ m :: u)) rest)
    (hc : Coherent (t ++ m :: u)) (hm : m.Halts) : StandsStill u rest := by
  have hyields : (run.execute w vars).Yields fun r => r.status = .cancelled ∧ r.error = none :=
    yields_execute w vars
  constructor
  · obtain ⟨v, r, hv, hcv⟩ := rest.exists_coherent_ends hc
    have hends : (run.execute w vars).Ends (traceOf (t ++ m :: (u ++ v))) r := by
      have hall := h.append hv
      rwa [← List.map_append, List.append_assoc, List.cons_append] at hall
    have hidle := hyields.idle_after t (u ++ v) m r hends (by simpa using hcv) hm
    exact fun n hn => hidle.1 n (List.mem_append_left v hn)
  · rintro r rfl
    exact (hyields.idle_after t u m r h hc hm).2

/-- A cancelled run stands still after it has asked its token. -/
theorem standsStill_of_asksToken {v x : List Moment} {n : Moment}
    (h : (run.execute w vars).Follows (traceOf (t ++ m :: (v ++ n :: x))) rest)
    (hc : Coherent (t ++ m :: (v ++ n :: x))) (hm : m.cancelledAfter = true)
    (hn : n.request.asksToken = true) : StandsStill x rest := by
  have hsplit : t ++ m :: (v ++ n :: x) = (t ++ m :: v) ++ n :: x := by simp
  rw [hsplit] at h hc
  have hbefore : n.cancelledBefore = true :=
    hc.cancelledBefore (List.mem_append_right t List.mem_cons_self) hm List.mem_cons_self
  have hanswered := hc.answered n (List.mem_append_right _ List.mem_cons_self)
  exact standsStill_of_halts h hc (Moment.halts_of_asksToken hanswered hbefore hn)

/-- The run asks its token before it acts again. -/
def AsksBeforeActing (u : List Moment) : Prop :=
  ∃ v n x, u = v ++ n :: x ∧ n.request.asksToken = true ∧ ∀ k ∈ v, k.request.acts = false

theorem acts_of_asksToken {q : Request} (h : q.asksToken = true) : q.acts = false := by
  cases q with
  | isCancelled | sleep => rfl
  | log | emit | clock | date | perform | play | look | load => cases h

/-- A run that never asks its token again ends as one that was not cancelled. -/
theorem asksBeforeActing_of_standsStill {r : RunRecord}
    (h : (run.execute w vars).Ends (traceOf (t ++ m :: u)) r) (hc : Coherent (t ++ m :: u))
    (hbefore : m.cancelledBefore = false) (hm : m.IsWholePause)
    (hstill : StandsStill u (.done r)) : AsksBeforeActing u := by
  by_cases hasked : ∃ n ∈ u, n.request.asksToken = true
  · obtain ⟨n, hn, hasks⟩ := hasked
    obtain ⟨v, x, rfl⟩ := List.mem_iff_append.mp hn
    exact ⟨v, n, x, rfl, hasks, fun k hk => hstill.idle k (List.mem_append_left _ hk)⟩
  · have hsilent : ∀ n ∈ u, n.request.asksToken = false :=
      fun n hn => Bool.eq_false_iff.mpr fun hasks => hasked ⟨n, hn, hasks⟩
    have hends := status_ne_cancelled h (hc.uncancelled hbefore hm hsilent)
    exact absurd (hstill.ended r rfl).1 hends

/-- A run that is cancelled while it waits for a call, or in a pause, stands still from then on,
    unless it is told that the pause was whole. In any case it stands still after it has asked its
    token again. So a run that has come to its end has stood still just when it was not told so, or
    else has asked before it acted. -/
theorem standsStill_after_cancellation (run : Session) (w : Workflow) (vars : Variables)
    {t u : List Moment} {m : Moment} {rest : Plan RunRecord}
    (h : (run.execute w vars).Follows (traceOf (t ++ m :: u)) rest)
    (hc : Coherent (t ++ m :: u)) (hm : m.Interrupts) :
    (¬ m.IsWholePause → StandsStill u rest) ∧
    (∀ v n x, u = v ++ n :: x → n.request.asksToken = true → StandsStill x rest) ∧
    ∀ r, rest = .done r →
      (StandsStill u rest ↔ (m.IsWholePause → AsksBeforeActing u)) := by
  have hasked : ∀ v n x, u = v ++ n :: x → n.request.asksToken = true → StandsStill x rest := by
    rintro v n x rfl hn
    exact standsStill_of_asksToken h hc hm.2.2 hn
  have htold : ¬ m.IsWholePause → StandsStill u rest :=
    fun hpause => standsStill_of_halts h hc (hm.halts hpause)
  refine ⟨htold, hasked, ?_⟩
  rintro r rfl
  constructor
  · exact fun hstill hpause => asksBeforeActing_of_standsStill h hc hm.2.1 hpause hstill
  · intro hasks
    by_cases hpause : m.IsWholePause
    · obtain ⟨v, n, x, rfl, hn, hidle⟩ := hasks hpause
      have hstill := hasked v n x rfl hn
      refine ⟨List.forall_mem_append.mpr ⟨hidle, List.forall_mem_cons.mpr ⟨?_, hstill.idle⟩⟩,
        hstill.ended⟩
      exact acts_of_asksToken hn
    · exact htold hpause

/-- A workflow whose only step taps the screen, and would go on after a failure. -/
def tapping : Workflow :=
  .ofSteps "tapping"
    [(Step.new "start" .start).andThen "tap",
      { (Step.new "tap" (.tap (some 1) (some 2))).andThen "tap" with onError := .proceed }]

/-- A workflow that calls another one several times, and calls it again when that fails. -/
def insisting : Workflow :=
  .ofSteps "insisting"
    [(Step.new "start" .start).andThen "call",
      { (Step.new "call" (.subWorkflow (some "tapping"))).onFailure "call" with loopCount := 3 }]

/-- A rehearsal in which the run is cancelled during the second tap, which fails. -/
def cancelledTap : Rehearsal.Cast where
  settings := .default
  device := .scripted ⟨⟨[(2, .timeout 3)], none⟩, 5, [], some 2⟩
  player := .absent
  screen := .absent
  store := .memory (Dict.empty.insert "tapping" tapping)
  logsEvents := false
  breaksAtEndOf := none

/-- The cancellation during a failing call two levels down, in a run that is wired to go on. -/
theorem standsStill_after_cancelled_tap :
    ∃ t m u r, ((⟨cancelledTap.rig, "d"⟩ : Session).execute insisting Dict.empty).Follows
        (traceOf (t ++ m :: u)) (.done r) ∧ Coherent (t ++ m :: u) ∧ m.Interrupts ∧
      StandsStill u (.done r) := by
  let run : Session := ⟨cancelledTap.rig, "d"⟩
  let plan := run.execute insisting Dict.empty
  have hends := cancelledTap.ends_history "d" plan (.opening .empty)
  have hcoherent := cancelledTap.coherent_history "d" plan (.opening .empty)
  have hinterrupt : ∃ m ∈ cancelledTap.history "d" plan (.opening .empty),
      m.Interrupts ∧ m.request.asksToken = false := by
    decide +kernel
  obtain ⟨m, hmem, hm, hcall⟩ := hinterrupt
  obtain ⟨t, u, hsplit⟩ := List.mem_iff_append.mp hmem
  rw [hsplit] at hends hcoherent
  refine ⟨t, m, u, _, hends, hcoherent, hm, ?_⟩
  refine (standsStill_after_cancellation run insisting Dict.empty hends hcoherent hm).1 ?_
  rintro ⟨ms, hpause⟩
  rw [hpause] at hcall
  cases hcall

/-- A workflow whose only step looks at the screen, with pauses around it. -/
def looking (preWaitMs postDelayMs : UInt64) : Workflow :=
  .ofSteps "looking"
    [(Step.new "start" .start).andThen "look",
      { Step.new "look" (.branch (some "exists") (some ⟨.text, "OK"⟩) none none) with
        preWaitMs := preWaitMs, postDelayMs := postDelayMs }]

/-- The run is cancelled in every pause, but is woken only when the time of the pause is over as
    well, and is told of the time. -/
def wokenLate : (q : Request) → Bool → Bool × q.Answer
  | .isCancelled, cancelled => (cancelled, cancelled)
  | .sleep _, true => (true, false)
  | .sleep 0, false => (false, true)
  | .sleep (_ + 1), false => (true, true)
  | .look, cancelled => (cancelled, .ok ⟨[]⟩)
  | q, cancelled => (cancelled, q.refusal)

theorem answered_wokenLate (q : Request) (cancelled : Bool) :
    Answered cancelled q (wokenLate q cancelled).2 (wokenLate q cancelled).1 := by
  cases q with
  | isCancelled => exact .read _ (fun h => h) fun h => h
  | sleep ms =>
    cases cancelled with
    | true => exact .refused ms
    | false =>
      cases ms with
      | zero => exact .instant
      | succ ms => exact .overlooked (Nat.succ_pos ms)
  | log | emit | clock | date | perform | play | look | load =>
    exact .other _ (by simp) (by simp) fun h => h

/-- A run that is woken late, cut at a moment of its history. -/
theorem cut_wokenLate (run : Session) (w : Workflow) (k : Nat) {m : Moment} {u : List Moment}
    (hm : ((run.execute w Dict.empty).history id wokenLate false).drop k = m :: u) :
    ∃ t, (run.execute w Dict.empty).Ends (traceOf (t ++ m :: u))
        ((run.execute w Dict.empty).carryOut wokenLate false).2 ∧ Coherent (t ++ m :: u) := by
  have hends := (run.execute w Dict.empty).ends_history id wokenLate false
  have hcoherent : Coherent ((run.execute w Dict.empty).history id wokenLate false) :=
    (run.execute w Dict.empty).coherent_history answered_wokenLate false
  rw [← List.take_append_drop k (Plan.history ..), hm] at hends hcoherent
  exact ⟨_, hends, hcoherent⟩

/-- A run that is cancelled in the pause before a step, but finds the time of the pause over, begins
    the step and looks at the screen. In the pause after its last step it is completed. -/
theorem acts_after_overlooked_cancellation :
    let run : Session := ⟨⟨.default, true, false, false⟩, "d"⟩
    let m : Moment := ⟨⟨.sleep 100, (true : Bool)⟩, false, true⟩
    m.Interrupts ∧
      (∃ t u r, (run.execute (looking 100 0) Dict.empty).Follows (traceOf (t ++ m :: u)) (.done r) ∧
        Coherent (t ++ m :: u) ∧
        (∃ n ∈ u, ∃ i, n.request = .emit (.stepStarted i)) ∧ ∃ n ∈ u, n.request = .look) ∧
      ∃ t u r, (run.execute (looking 0 100) Dict.empty).Follows (traceOf (t ++ m :: u)) (.done r) ∧
        Coherent (t ++ m :: u) ∧ r.status = .completed := by
  intro run m
  obtain ⟨t, hends, hcoherent⟩ := cut_wokenLate run (looking 100 0) 5 (m := m) rfl
  obtain ⟨t', hends', hcoherent'⟩ := cut_wokenLate run (looking 0 100) 13 (m := m) rfl
  refine ⟨by decide, ⟨t, _, _, hends, hcoherent, ?_, ?_⟩, t', _, _, hends', hcoherent', rfl⟩
  · exact ⟨_, .head _, _, rfl⟩
  · exact ⟨_, .tail _ (.tail _ (.tail _ (.head _))), rfl⟩

end Session

end DeviceFlow
