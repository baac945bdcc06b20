import DeviceFlow.Proofs.Timing.Uncancelled

/-!
# The iterations of a step

A step is iterated as often as it says, unless an iteration comes to an error that ends the run, or
to any error while the step stops at errors. Each iteration takes the pause before it, its own time
and the pause after it, which only an error that ends the run leaves out. What the step comes to is
what its last iteration has come to.
-/

namespace DeviceFlow

/-- The error of an outcome, if it ends the run at once. -/
def StepOutcome.fatal? (o : StepOutcome) : Option StepError := o.error.filter StepError.isFatal

/-- One iteration of a step: what is exchanged while the step is executed, and the progress and the
    outcome to which it comes. -/
structure Round where
  body : List TimedExchange
  after : Progress
  outcome : StepOutcome

namespace Round

/-- The step is not iterated again: the error ends the run, or the step stops at every error. -/
def EndsLoop (s : Step) (round : Round) : Prop :=
  ∃ e, round.outcome.error = some e ∧ (e.isFatal = true ∨ s.onError = .stop)

/-- What a step comes to whose last iteration this is. -/
def result (s : Step) (round : Round) : Except RunError StepOutcome :=
  match round.outcome.fatal? with
  | some e => .error (e.toRunError s.id)
  | none => .ok round.outcome

/-- The time that an iteration takes with its pauses. -/
def timeMs (s : Step) (round : Round) : Nat :=
  s.preWaitMs.toNat + duration round.body +
    if round.outcome.fatal?.isSome then 0 else s.postDelayMs.toNat

end Round

namespace Session

variable (run : Session) (w : Workflow) (s : Step)

/-- The line of the log that reports a failure which does not end the run. -/
def failureReport (number : Nat) (outcome : StepOutcome) : List Exchange :=
  match outcome.error with
  | some e =>
    [⟨.log (.warn .run (s!"Step '{s.id}' failed on iteration {number}: " ++ e.message)), ()⟩]
  | none => []

/-- The trace between the pauses of an iteration: its beginning and its end are told, with the time
    that it has taken. -/
def bracketTrace (number now : Nat) (round : Round) : List TimedExchange :=
  [⟨.emit (.stepStarted (run.iteration w s number)), ()⟩,
    ⟨.log (.debug .run s!"Running step '{s.id}' ({s.typeName}) iteration {number}"), ()⟩,
    ⟨.clock, now⟩].map Exchange.atOnce ++ round.body ++
  [⟨.clock, now + duration round.body⟩,
    ⟨.emit (.stepEnded (run.iteration w s number) (!round.outcome.isFailure)
      (duration round.body) round.outcome.errorMessage), ()⟩].map Exchange.atOnce

/-- The trace of the iteration with a number that begins at a time. -/
def roundTrace (number now : Nat) (round : Round) : List TimedExchange :=
  pause s.preWaitMs.toNat :: run.bracketTrace w s number (now + s.preWaitMs.toNat) round ++
    if round.outcome.fatal?.isSome then []
    else (failureReport s number round.outcome).map Exchange.atOnce ++ [pause s.postDelayMs.toNat]

/-- The trace of some iterations, one after the other. -/
def roundsTrace : Nat → Nat → List Round → List TimedExchange
  | _, _, [] => []
  | number, now, round :: rest =>
    run.roundTrace w s number now round ++ roundsTrace (number + 1) (now + round.timeMs s) rest

/-- In each of some iterations, which begin at a time and with some progress, the step is executed
    with the progress that the one before it has left. -/
def Executes (levels : Nat) : Nat → Progress → List Round → Prop
  | _, _, [] => True
  | now, p, round :: rest =>
    (run.executeStep (run.call levels) s p).Passes (now + s.preWaitMs.toNat) round.body
        (round.after, round.outcome) ∧
      Executes levels (now + round.timeMs s) round.after rest

/-- The iterations of a step, of which there are no more than a limit: all but the last one let the
    step go on, and the last one ends it or reaches the limit. -/
structure Rounds (levels limit now : Nat) (p : Progress) (earlier : List Round) (last : Round) :
    Prop where
  executed : run.Executes s levels now p (earlier ++ [last])
  goesOn : ∀ round ∈ earlier, ¬ round.EndsLoop s
  few : earlier.length + 1 ≤ limit
  ends : last.EndsLoop s ∨ earlier.length + 1 = limit

end Session

open Plan

variable {run : Session} {w : Workflow} {s : Step} {levels number now : Nat} {p q : Progress}
  {t : List TimedExchange} {outcome : StepOutcome}

/-- Of an error that is no cancellation, the run is ended at once just if the error is fatal. -/
theorem Session.fatalError?_eq_fatal? (h : ∀ e, outcome.error = some e → e.GoesOn) :
    fatalError? s outcome = outcome.fatal?.map (StepError.toRunError s.id) := by
  unfold fatalError? StepOutcome.fatal?
  cases he : outcome.error with
  | none => rfl
  | some e =>
    have hgoes := StepError.goesOn_iff.mp (h e he)
    cases e with
    | cancelled => exact absurd rfl hgoes.1
    | _ => rfl

namespace Session

theorem passes_reportFailure_bind {β : Type} {f : Unit → Plan β} {b : β} :
    (reportFailure s number outcome >>= f).Passes now t b ↔
      ∃ u, t = (failureReport s number outcome).map Exchange.atOnce ++ u ∧
        (f ()).Passes now u b := by
  unfold reportFailure failureReport
  cases outcome.error with
  | none => simp
  | some e => exact passes_log_bind

theorem passes_bracketStep {call : Call} {x : Progress × StepOutcome} :
    (run.bracketStep call w s number p).Passes now t x ↔
      ∃ body, t = run.bracketTrace w s number now ⟨body, x.1, x.2⟩ ∧
        (run.executeStep call s p).Passes now body x := by
  unfold bracketStep bracketTrace
  constructor
  · intro h
    obtain ⟨u, rfl, htold⟩ := passes_emit_bind.mp h
    obtain ⟨u, rfl, hlogged⟩ := passes_log_bind.mp htold
    obtain ⟨u, rfl, htimed⟩ := passes_clock_bind.mp hlogged
    obtain ⟨body, x, u, rfl, hbody, hexecuted⟩ := passes_bind.mp htimed
    obtain ⟨u, rfl, hended⟩ := passes_clock_bind.mp hexecuted
    obtain ⟨u, rfl, hdone⟩ := passes_emit_bind.mp hended
    obtain ⟨rfl, rfl⟩ := passes_done.mp hdone
    have htook : now + duration body - now = duration body := Nat.add_sub_cancel_left ..
    refine ⟨body, ?_, hbody⟩
    rw [htook]
    rfl
  · rintro ⟨body, rfl, hbody⟩
    have htook : now + duration body - now = duration body := Nat.add_sub_cancel_left ..
    refine passes_emit_bind.mpr ⟨_, rfl, ?_⟩
    refine passes_log_bind.mpr ⟨_, rfl, ?_⟩
    refine passes_clock_bind.mpr ⟨_, rfl, ?_⟩
    refine passes_bind.mpr ⟨body, x, _, rfl, hbody, ?_⟩
    refine passes_clock_bind.mpr ⟨_, rfl, ?_⟩
    refine passes_emit_bind.mpr ⟨[], ?_, passes_done.mpr ⟨rfl, rfl⟩⟩
    rw [htook]
    rfl

theorem duration_bracketTrace {round : Round} :
    duration (run.bracketTrace w s number now round) = duration round.body := by
  simp [bracketTrace]

theorem duration_map_atOnce (u : List Exchange) : duration (u.map Exchange.atOnce) = 0 := by
  induction u with
  | nil => rfl
  | cons x u ih => simpa using ih

theorem duration_roundTrace {round : Round} :
    duration (run.roundTrace w s number now round) = round.timeMs s := by
  unfold roundTrace Round.timeMs
  rw [List.cons_append, duration_cons, duration_append, duration_bracketTrace, tookMs_pause]
  split
  · rw [duration_nil]
    omega
  · rw [duration_append, duration_map_atOnce, duration_cons, duration_nil, tookMs_pause]
    omega

/-- Some iterations take the time of each of them. -/
theorem duration_roundsTrace (rounds : List Round) :
    duration (run.roundsTrace w s number now rounds) = (rounds.map (Round.timeMs s)).sum := by
  induction rounds generalizing number now with
  | nil => rfl
  | cons round rest ih =>
    rw [roundsTrace, duration_append, duration_roundTrace, ih, List.map_cons, List.sum_cons]

/-- What an executed step comes to that nothing has cancelled does not end the run by a
    cancellation. -/
theorem goesOn_of_passes (h : (run.executeStep (run.call levels) s p).Passes now t (q, outcome)) :
    ∀ e, outcome.error = some e → e.GoesOn :=
  (course_executeStep (callCourse levels) h.1).uncancelled h.2.uncancelled

/-- One iteration that nothing cancels. -/
theorem passes_iterateOnce {x : Progress × Except RunError StepOutcome} :
    (run.iterateOnce (run.call levels) w s number p).Passes now t x ↔
      ∃ round, t = run.roundTrace w s number now round ∧
        (run.executeStep (run.call levels) s p).Passes (now + s.preWaitMs.toNat) round.body
          (round.after, round.outcome) ∧ x = (round.after, round.result s) := by
  unfold iterateOnce
  constructor
  · intro h
    obtain ⟨u, rfl, hrested⟩ := passes_sleep_bind.mp h
    obtain ⟨u, ⟨q, outcome⟩, v, rfl, hbracket, hleft⟩ := passes_bind.mp hrested
    obtain ⟨body, rfl, hbody⟩ := passes_bracketStep.mp hbracket
    dsimp only at hleft
    rw [fatalError?_eq_fatal? (goesOn_of_passes hbody)] at hleft
    refine ⟨⟨body, q, outcome⟩, ?_⟩
    unfold roundTrace Round.result
    dsimp only
    cases hfatal : outcome.fatal? with
    | some e =>
      rw [hfatal] at hleft
      obtain ⟨rfl, rfl⟩ := passes_done.mp hleft
      exact ⟨rfl, hbody, rfl⟩
    | none =>
      rw [hfatal] at hleft
      obtain ⟨v, rfl, hreported⟩ := passes_reportFailure_bind.mp hleft
      obtain ⟨v, rfl, hdone⟩ := passes_sleep_bind.mp hreported
      obtain ⟨rfl, rfl⟩ := passes_done.mp hdone
      exact ⟨rfl, hbody, rfl⟩
  · rintro ⟨round, rfl, hbody, rfl⟩
    refine passes_sleep_bind.mpr ⟨_, rfl, ?_⟩
    refine passes_bind.mpr ⟨_, _, _, rfl, passes_bracketStep.mpr ⟨_, rfl, hbody⟩, ?_⟩
    dsimp only
    rw [fatalError?_eq_fatal? (goesOn_of_passes hbody)]
    unfold Round.result
    cases round.outcome.fatal? with
    | some e => exact passes_done.mpr ⟨rfl, rfl⟩
    | none =>
      refine passes_reportFailure_bind.mpr ⟨_, rfl, ?_⟩
      exact passes_sleep_bind.mpr ⟨[], rfl, passes_done.mpr ⟨rfl, rfl⟩⟩

theorem breaksLoop_iff {round : Round} :
    breaksLoop s round.outcome = true ↔
      (∃ e, round.outcome.error = some e) ∧ s.onError = .stop := by
  simp [breaksLoop, StepOutcome.isFailure, Option.isSome_iff_exists]

/-- An iteration ends the loop with its error, or because the step stops at errors. -/
theorem endsLoop_iff {round : Round} :
    round.EndsLoop s ↔ round.outcome.fatal?.isSome = true ∨ breaksLoop s round.outcome = true := by
  rw [breaksLoop_iff]
  unfold Round.EndsLoop StepOutcome.fatal?
  cases round.outcome.error with
  | none => simp
  | some e => simp [Option.isSome_filter]

/-- A single iteration is the last one that is left, or ends the loop. -/
theorem rounds_one {limit : Nat} {last : Round} :
    run.Rounds s levels (limit + 1) now p [] last ↔
      (run.executeStep (run.call levels) s p).Passes (now + s.preWaitMs.toNat) last.body
        (last.after, last.outcome) ∧ (last.EndsLoop s ∨ limit = 0) := by
  constructor
  · intro h
    exact ⟨h.executed.1, h.ends.imp_right fun hlimit => (Nat.succ.inj hlimit).symm⟩
  · rintro ⟨hbody, hends⟩
    exact ⟨⟨hbody, trivial⟩, nofun, Nat.succ_le_succ (Nat.zero_le limit),
      hends.imp_right fun hlimit => congrArg Nat.succ hlimit.symm⟩

/-- An iteration after which the step goes on comes before the others. -/
theorem rounds_cons {limit : Nat} {round last : Round} {earlier : List Round} :
    run.Rounds s levels (limit + 1) now p (round :: earlier) last ↔
      (run.executeStep (run.call levels) s p).Passes (now + s.preWaitMs.toNat) round.body
        (round.after, round.outcome) ∧ ¬ round.EndsLoop s ∧
        run.Rounds s levels limit (now + round.timeMs s) round.after earlier last := by
  constructor
  · intro h
    obtain ⟨hround, hearlier⟩ := List.forall_mem_cons.mp h.goesOn
    exact ⟨h.executed.1, hround, h.executed.2, hearlier, Nat.le_of_succ_le_succ h.few,
      h.ends.imp_right Nat.succ.inj⟩
  · rintro ⟨hbody, hround, h⟩
    exact ⟨⟨hbody, h.executed⟩, List.forall_mem_cons.mpr ⟨hround, h.goesOn⟩,
      Nat.succ_le_succ h.few, h.ends.imp_right (congrArg Nat.succ)⟩

/-- What a run does after an iteration: it ends with it, or goes on with those that are left. -/
def afterIteration (run : Session) (call : Call) (w : Workflow) (s : Step) (left number : Nat) :
    Progress × Except RunError StepOutcome → Plan (Progress × Except RunError StepOutcome)
  | (p, .error e) => done (p, .error e)
  | (p, .ok outcome) =>
    if left = 0 || breaksLoop s outcome then done (p, .ok outcome)
    else run.iterate call w s left (number + 1) p

theorem iterate_succ (call : Call) (left : Nat) :
    run.iterate call w s (left + 1) number p =
      run.iterateOnce call w s number p >>= run.afterIteration call w s left number := by
  unfold iterate
  refine congrArg (run.iterateOnce call w s number p >>= ·) (funext fun r => ?_)
  obtain ⟨q, e | outcome⟩ := r
  · rfl
  · rfl

/-- The last iteration decides. -/
theorem afterIteration_of_last {call : Call} {left : Nat} {round : Round}
    (h : round.EndsLoop s ∨ left = 0) :
    run.afterIteration call w s left number (round.after, round.result s) =
      done (round.after, round.result s) := by
  rw [endsLoop_iff] at h
  unfold Round.result
  cases hfatal : round.outcome.fatal? with
  | some e => rfl
  | none =>
    have hlast : left = 0 ∨ breaksLoop s round.outcome = true := by
      simpa [hfatal, or_comm] using h
    exact if_pos (by simpa using hlast)

/-- After any other one the step is iterated again. -/
theorem afterIteration_of_goesOn {call : Call} {left : Nat} {round : Round}
    (h : ¬ round.EndsLoop s) (hleft : left ≠ 0) :
    run.afterIteration call w s left number (round.after, round.result s) =
      run.iterate call w s left (number + 1) round.after := by
  rw [endsLoop_iff, not_or] at h
  unfold Round.result
  cases hfatal : round.outcome.fatal? with
  | some e => exact absurd (congrArg Option.isSome hfatal) h.1
  | none => exact if_neg (by simp [hleft, h.2])

/-- The iterations of a step that are left, when nothing cancels the run. -/
theorem passes_iterate {left : Nat} {x : Progress × Except RunError StepOutcome}
    (hleft : left ≠ 0) :
    (run.iterate (run.call levels) w s left number p).Passes now t x ↔
      ∃ earlier last, run.Rounds s levels left now p earlier last ∧
        t = run.roundsTrace w s number now (earlier ++ [last]) ∧
        x = (last.after, last.result s) := by
  induction left generalizing number now p t with
  | zero => exact absurd rfl hleft
  | succ left ih =>
    rw [iterate_succ, passes_bind]
    constructor
    · rintro ⟨u, y, v, rfl, honce, hrest⟩
      obtain ⟨round, rfl, hbody, rfl⟩ := passes_iterateOnce.mp honce
      rw [duration_roundTrace] at hrest
      by_cases hlast : round.EndsLoop s ∨ left = 0
      · rw [afterIteration_of_last hlast] at hrest
        obtain ⟨rfl, rfl⟩ := passes_done.mp hrest
        exact ⟨[], round, rounds_one.mpr ⟨hbody, hlast⟩, rfl, rfl⟩
      · obtain ⟨hgoes, hmore⟩ := not_or.mp hlast
        rw [afterIteration_of_goesOn hgoes hmore] at hrest
        obtain ⟨earlier, last, hrounds, rfl, rfl⟩ := (ih hmore).mp hrest
        exact ⟨round :: earlier, last, rounds_cons.mpr ⟨hbody, hgoes, hrounds⟩, rfl, rfl⟩
    · rintro ⟨earlier, last, hrounds, rfl, rfl⟩
      cases earlier with
      | nil =>
        obtain ⟨hbody, hlast⟩ := rounds_one.mp hrounds
        refine ⟨_, _, [], rfl, passes_iterateOnce.mpr ⟨last, rfl, hbody, rfl⟩, ?_⟩
        exact afterIteration_of_last hlast ▸ passes_done.mpr ⟨rfl, rfl⟩
      | cons round earlier =>
        obtain ⟨hbody, hgoes, hrounds⟩ := rounds_cons.mp hrounds
        have hmore : left ≠ 0 := Nat.ne_of_gt (Nat.lt_of_lt_of_le (Nat.succ_pos _) hrounds.few)
        refine ⟨_, _, _, rfl, passes_iterateOnce.mpr ⟨round, rfl, hbody, rfl⟩, ?_⟩
        rw [afterIteration_of_goesOn hgoes hmore, duration_roundTrace]
        exact (ih hmore).mpr ⟨earlier, last, hrounds, rfl, rfl⟩

/-- A step is iterated just so, when nothing cancels the run: up to the first iteration that comes
    to a fatal error, or to any error while the step stops at errors, and else as often as it says,
    at least once. It comes to what the last iteration comes to, and takes the time of the
    iterations. -/
theorem iterate_passes_iff (run : Session) (levels : Nat) (w : Workflow) (s : Step) (p : Progress)
    (now : Nat) (t : List TimedExchange) (x : Progress × Except RunError StepOutcome) :
    (run.iterate (run.call levels) w s s.iterations 1 p).Passes now t x ↔
      ∃ earlier last,
        run.Rounds s levels (max s.loopCount.toInt 1).toNat now p earlier last ∧
          t = run.roundsTrace w s 1 now (earlier ++ [last]) ∧
          duration t = ((earlier ++ [last]).map (Round.timeMs s)).sum ∧
          x = (last.after, last.result s) := by
  have hsome : s.iterations ≠ 0 := by
    unfold Step.iterations
    omega
  rw [passes_iterate hsome]
  constructor
  · rintro ⟨earlier, last, hrounds, rfl, rfl⟩
    exact ⟨earlier, last, hrounds, rfl, duration_roundsTrace _, rfl⟩
  · rintro ⟨earlier, last, hrounds, rfl, -, rfl⟩
    exact ⟨earlier, last, hrounds, rfl, rfl⟩

/-- Of three taps the second one fails. It is the last one, and the pause after it is kept. -/
theorem iterate_passes_failing_tap :
    let run : Session := ⟨⟨.default, true, false, false⟩, "d"⟩
    let w : Workflow := .new "w" "w"
    let s : Step := { Step.new "tap" (.tap (some 1) (some 2)) with
      loopCount := 3, preWaitMs := 10, postDelayMs := 20 }
    let p : Progress := ⟨Dict.empty, 1⟩
    let failure : StepOutcome := .failed (.device (.timeout 7))
    let first : Round := ⟨[⟨⟨.perform (.tap 1 2), .ok ""⟩, 5⟩], p, .ok⟩
    let second : Round :=
      ⟨[⟨⟨.perform (.tap 1 2), .error (.timeout 7)⟩, 7⟩], p, failure⟩
    let t := run.roundsTrace w s 1 100 [first, second]
    (run.iterate (run.call 0) w s s.iterations 1 p).Passes 100 t (p, .ok failure) ∧
      duration t = (10 + 5 + 20) + (10 + 7 + 20) := by
  intro run w s p failure first second t
  have hfirst : (run.executeStep (run.call 0) s p).Passes 110 first.body (p, .ok) :=
    ⟨.step (q := .perform (.tap 1 2)) (.ok "") (.here _), trivial, trivial⟩
  have hsecond : (run.executeStep (run.call 0) s p).Passes 145 second.body (p, failure) :=
    ⟨.step (q := .perform (.tap 1 2)) (.error (.timeout 7)) (.here _), trivial,
      trivial⟩
  have hrounds : run.Rounds s 0 3 100 p [first] second := by
    refine ⟨⟨hfirst, hsecond, trivial⟩, ?_, by decide, .inl ⟨_, rfl, .inr rfl⟩⟩
    rintro round hround ⟨e, he, -⟩
    rw [List.mem_singleton.mp hround] at he
    cases he
  refine ⟨?_, by decide +kernel⟩
  exact (iterate_passes_iff run 0 w s p 100 t (p, .ok failure)).mpr
    ⟨[first], second, hrounds, rfl, by decide +kernel, rfl⟩

end Session

end DeviceFlow
