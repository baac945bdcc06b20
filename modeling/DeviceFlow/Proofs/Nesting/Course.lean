import DeviceFlow.Proofs.Nesting.Piece
import DeviceFlow.Proofs.Trace.Perform

/-!
# The courses of a run

The course of a piece is given by rules, one for each way in which the piece comes to its end:
what is exchanged on the way, the courses of the pieces in it, and the result. The rules know no
bound on the steps of a walk but the limit that the run checks itself. Whatever holds of every
run is proved by induction on its course.
-/

namespace DeviceFlow

/-- One iteration of a step of a workflow in a run. -/
def Session.iteration (run : Session) (w : Workflow) (s : Step) (number : Nat) : Iteration :=
  ⟨run.device, w.id, s.id, s.typeName, number⟩

/-- The exchanges between the pauses of an iteration: those of the execution of the step, and
    what tells their beginning and their end. -/
def Session.bracket (run : Session) (w : Workflow) (s : Step) (number startedAt endedAt : Nat)
    (outcome : StepOutcome) (t : List Exchange) : List Exchange :=
  [⟨.emit (.stepStarted (run.iteration w s number)), ()⟩,
    ⟨.log (.debug .run s!"Running step '{s.id}' ({s.typeName}) iteration {number}"), ()⟩,
    ⟨.clock, startedAt⟩] ++ t ++
  [⟨.clock, endedAt⟩,
    ⟨.emit (.stepEnded (run.iteration w s number) (!outcome.isFailure) (endedAt - startedAt)
      outcome.errorMessage), ()⟩]

open Piece in
/-- A piece takes a course: it comes to a result along a trace. -/
inductive Course (run : Session) : (x : Piece) → List Exchange → x.Result → Prop where
  | run {w : Workflow} {vars : Variables} {startedAt finishedAt : Timestamp}
      {startedMs endedMs : Nat} {t v : List Exchange} {q : Progress}
      {result : Except RunError Unit}
      (hwalk : Course run (.walk run.rig.settings.maxNestingDepth w ⟨vars, 0⟩) t (q, result))
      (hannounce : (run.announceEnd w q (Session.conclusion result).1
        (Session.conclusion result).2 (endedMs - startedMs)).Ends v ()) :
      Course run (.run w vars)
        ([⟨.date, startedAt⟩, ⟨.clock, startedMs⟩,
          ⟨.log (.info .run
            s!"[{run.device}] Starting workflow '{w.name}' ({w.steps.length} steps)"), ()⟩,
          ⟨.emit (.runStarted run.device w.id w.name startedAt), ()⟩] ++ t ++
          ⟨.clock, endedMs⟩ :: v ++ [⟨.date, finishedAt⟩])
        { workflowId := w.id
          workflowName := w.name
          status := (Session.conclusion result).1
          startedAt := startedAt
          finishedAt := finishedAt
          durationMs := endedMs - startedMs
          steps := q.steps
          error := (Session.conclusion result).2
          vars := q.vars }
  | walk {levels : Nat} {w : Workflow} {p : Progress} {start : Step} {t : List Exchange}
      {r : Progress × Except RunError Unit} (hstart : w.starts = [start])
      (h : Course run (.onward levels w (run.rig.settings.maxSteps - p.steps)
        (wired start.connections.onSuccess) { p with vars := p.vars.seed w.vars }) t r) :
      Course run (.walk levels w p) t r
  | startless {levels : Nat} {w : Workflow} {p : Progress} (hstart : w.starts = []) :
      Course run (.walk levels w p) []
        ({ p with vars := p.vars.seed w.vars }, .error (.noStartStep w.id))
  | forked {levels : Nat} {w : Workflow} {p : Progress} (hstart : 2 ≤ w.starts.length) :
      Course run (.walk levels w p) []
        ({ p with vars := p.vars.seed w.vars },
          .error (.multipleStartSteps w.id w.starts.length))
  /-- The walk has come to the end of the graph. -/
  | arrived {levels room : Nat} {w : Workflow} {p : Progress} :
      Course run (.onward levels w room none p)
        [⟨.log (.debug .run s!"Workflow '{w.id}' reached the end of its graph"), ()⟩] (p, .ok ())
  | halted {levels room : Nat} {w : Workflow} {id : String} {p : Progress} :
      Course run (.onward levels w room (some id) p) [⟨.isCancelled, true⟩] (p, .error .cancelled)
  | exhausted {levels room : Nat} {w : Workflow} {id : String} {p : Progress}
      (hlimit : run.rig.settings.maxSteps ≤ p.steps) :
      Course run (.onward levels w room (some id) p) [⟨.isCancelled, false⟩]
        (p, .error (.stepBudgetExceeded run.rig.settings.maxSteps))
  | lost {levels room : Nat} {w : Workflow} {id : String} {p : Progress}
      (hroom : p.steps < run.rig.settings.maxSteps) (htarget : w.target? id = none) :
      Course run (.onward levels w (room + 1) (some id) p) [⟨.isCancelled, false⟩]
        (p, .error (.corruptGraph w.id id))
  /-- The walk breaks off in a step. -/
  | broken {levels room : Nat} {w : Workflow} {id : String} {s : Step} {p q : Progress}
      {t : List Exchange} {e : RunError}
      (hroom : p.steps < run.rig.settings.maxSteps) (htarget : w.target? id = some s)
      (h : Course run (.repetition levels w s s.iterations 1 { p with steps := p.steps + 1 }) t
        (q, .error e)) :
      Course run (.onward levels w (room + 1) (some id) p) (⟨.isCancelled, false⟩ :: t)
        (q, .error e)
  /-- The walk ends after a step that has failed. -/
  | stopped {levels room : Nat} {w : Workflow} {id : String} {s : Step} {p q : Progress}
      {t : List Exchange} {outcome : StepOutcome} {e : RunError}
      (hroom : p.steps < run.rig.settings.maxSteps) (htarget : w.target? id = some s)
      (h : Course run (.repetition levels w s s.iterations 1 { p with steps := p.steps + 1 }) t
        (q, .ok outcome)) (hend : Session.endError? s outcome = some e) :
      Course run (.onward levels w (room + 1) (some id) p) (⟨.isCancelled, false⟩ :: t)
        (q, .error e)
  | onward {levels room : Nat} {w : Workflow} {id : String} {s : Step} {p q : Progress}
      {t u : List Exchange} {outcome : StepOutcome} {r : Progress × Except RunError Unit}
      (hroom : p.steps < run.rig.settings.maxSteps) (htarget : w.target? id = some s)
      (h : Course run (.repetition levels w s s.iterations 1 { p with steps := p.steps + 1 }) t
        (q, .ok outcome)) (hend : Session.endError? s outcome = none)
      (hrest : Course run (.onward levels w room (s.next outcome) q) u r) :
      Course run (.onward levels w (room + 1) (some id) p) (⟨.isCancelled, false⟩ :: (t ++ u)) r
  | idle {levels : Nat} {w : Workflow} {s : Step} {number : Nat} {p : Progress} :
      Course run (.repetition levels w s 0 number p) [] (p, .ok .ok)
  | failed {levels : Nat} {w : Workflow} {s : Step} {left number : Nat} {p q : Progress}
      {t : List Exchange} {e : RunError}
      (h : Course run (.iteration levels w s number p) t (q, .error e)) :
      Course run (.repetition levels w s (left + 1) number p) t (q, .error e)
  | last {levels : Nat} {w : Workflow} {s : Step} {left number : Nat} {p q : Progress}
      {t : List Exchange} {outcome : StepOutcome}
      (h : Course run (.iteration levels w s number p) t (q, .ok outcome))
      (hlast : left = 0 ∨ Session.breaksLoop s outcome = true) :
      Course run (.repetition levels w s (left + 1) number p) t (q, .ok outcome)
  | again {levels : Nat} {w : Workflow} {s : Step} {left number : Nat} {p q : Progress}
      {t u : List Exchange} {outcome : StepOutcome} {r : Progress × Except RunError StepOutcome}
      (h : Course run (.iteration levels w s number p) t (q, .ok outcome))
      (hleft : left ≠ 0) (hbreak : Session.breaksLoop s outcome = false)
      (hrest : Course run (.repetition levels w s left (number + 1) q) u r) :
      Course run (.repetition levels w s (left + 1) number p) (t ++ u) r
  /-- The run is cancelled in the pause before the step. -/
  | refused {levels : Nat} {w : Workflow} {s : Step} {number : Nat} {p : Progress} :
      Course run (.iteration levels w s number p) [⟨.sleep s.preWaitMs.toNat, false⟩]
        (p, .error .cancelled)
  /-- The step comes to an error that ends the run. -/
  | fatal {levels : Nat} {w : Workflow} {s : Step} {number startedAt endedAt : Nat}
      {p q : Progress} {t : List Exchange} {outcome : StepOutcome} {e : RunError}
      (h : Course run (.attempt levels s p) t (q, outcome))
      (hfatal : Session.fatalError? s outcome = some e) :
      Course run (.iteration levels w s number p)
        (⟨.sleep s.preWaitMs.toNat, true⟩ ::
          run.bracket w s number startedAt endedAt outcome t)
        (q, .error e)
  /-- The iteration ends with the pause after the step. -/
  | bearable {levels : Nat} {w : Workflow} {s : Step} {number startedAt endedAt : Nat}
      {p q : Progress} {t v : List Exchange} {outcome : StepOutcome} {whole : Bool}
      (h : Course run (.attempt levels s p) t (q, outcome))
      (hfatal : Session.fatalError? s outcome = none)
      (hreport : (Session.reportFailure s number outcome).Ends v ()) :
      Course run (.iteration levels w s number p)
        (⟨.sleep s.preWaitMs.toNat, true⟩ ::
          run.bracket w s number startedAt endedAt outcome t ++
          (v ++ [⟨.sleep s.postDelayMs.toNat, whole⟩]))
        (q, if whole then .ok outcome else .error .cancelled)
  | nameless {levels : Nat} {s : Step} {p : Progress} {wiredId : Option String}
      (hkind : s.kind = .subWorkflow wiredId) (hid : wired wiredId = none) :
      Course run (.attempt levels s p) []
        (p, .failed (.missingParameters "sub_workflow" ["workflow_id"]))
  | returned {levels : Nat} {s : Step} {p q : Progress} {wiredId : Option String} {id : String}
      {t : List Exchange} (hkind : s.kind = .subWorkflow wiredId) (hid : wired wiredId = some id)
      (h : Course run (.call levels (p.vars.substitute id) p) t (q, .ok ())) :
      Course run (.attempt levels s p) t (q, .ok)
  | thrown {levels : Nat} {s : Step} {p q : Progress} {wiredId : Option String} {id : String}
      {t : List Exchange} {e : StepError} (hkind : s.kind = .subWorkflow wiredId)
      (hid : wired wiredId = some id)
      (h : Course run (.call levels (p.vars.substitute id) p) t (q, .error e)) :
      Course run (.attempt levels s p) t (q, .failed e)
  /-- A step that calls no workflow is performed. -/
  | performed {levels : Nat} {s : Step} {p : Progress} {t : List Exchange}
      {outcome : StepOutcome} {vars : Variables} (hkind : ∀ id, s.kind ≠ .subWorkflow id)
      (h : (s.perform run.rig p.vars).run.Ends t (.ok (outcome, vars))) :
      Course run (.attempt levels s p) t ({ p with vars := vars }, outcome)
  | unperformed {levels : Nat} {s : Step} {p : Progress} {t : List Exchange} {e : StepError}
      (hkind : ∀ id, s.kind ≠ .subWorkflow id)
      (h : (s.perform run.rig p.vars).run.Ends t (.error e)) :
      Course run (.attempt levels s p) t (p, .failed e)
  | tooDeep {id : String} {p : Progress} :
      Course run (.call 0 id p) []
        (p, .error (.nestingDepthExceeded run.rig.settings.maxNestingDepth))
  | storeless {levels : Nat} {id : String} {p : Progress} (hstore : run.rig.hasStore = false) :
      Course run (.call (levels + 1) id p) [] (p, .error (.unavailable "workflow store"))
  | unloaded {levels : Nat} {id text : String} {p : Progress}
      (hstore : run.rig.hasStore = true) :
      Course run (.call (levels + 1) id p) [⟨.load id, .error text⟩] (p, .error (.store text))
  | missing {levels : Nat} {id : String} {p : Progress} (hstore : run.rig.hasStore = true) :
      Course run (.call (levels + 1) id p) [⟨.load id, .ok none⟩]
        (p, .error (.workflowNotFound id))
  /-- The called workflow has come to its end. -/
  | finished {levels depth : Nat} {id : String} {child : Workflow} {p q : Progress}
      {t : List Exchange} (hstore : run.rig.hasStore = true)
      (hdepth : depth = run.rig.settings.maxNestingDepth - levels)
      (h : Course run (.walk levels child p) t (q, .ok ())) :
      Course run (.call (levels + 1) id p)
        ([⟨.load id, .ok (some child)⟩,
          ⟨.log (.info .run s!"Entering sub-workflow '{child.id}' at depth {depth}"), ()⟩] ++ t ++
          [⟨.log (.debug .run s!"Sub-workflow '{child.id}' finished"), ()⟩])
        (Session.Progress.afterCall run.rig.settings.scope p q, .ok ())
  /-- The called workflow has failed. -/
  | unfinished {levels depth : Nat} {id : String} {child : Workflow} {p q : Progress}
      {t : List Exchange} {e : RunError} (hstore : run.rig.hasStore = true)
      (hdepth : depth = run.rig.settings.maxNestingDepth - levels)
      (h : Course run (.walk levels child p) t (q, .error e)) :
      Course run (.call (levels + 1) id p)
        ([⟨.load id, .ok (some child)⟩,
          ⟨.log (.info .run s!"Entering sub-workflow '{child.id}' at depth {depth}"), ()⟩] ++ t)
        (Session.Progress.afterCall run.rig.settings.scope p q,
          .error (Session.asStepError id e))

namespace Piece

/-- The number of steps that have been dispatched when the piece begins. -/
def stepsBefore : Piece → Nat
  | .run .. => 0
  | .walk _ _ p | .onward _ _ _ _ p | .repetition _ _ _ _ _ p | .iteration _ _ _ _ p
  | .attempt _ _ p | .call _ _ p => p.steps

/-- The number of steps that have been dispatched when the piece ends. -/
def stepsAfter : (x : Piece) → x.Result → Nat
  | .run .., r => RunRecord.steps r
  | .walk .., r | .onward .., r => Progress.steps r.1
  | .repetition .., r | .iteration .., r => Progress.steps r.1
  | .attempt .., r => Progress.steps r.1
  | .call .., r => Progress.steps r.1

end Piece

variable {run : Session}

@[simp] theorem Session.Progress.steps_afterCall (scope : VariableScope) (p q : Progress) :
    (afterCall scope p q).steps = q.steps := by
  cases scope with
  | shared => rfl
  | isolated => rfl

/-- The number of dispatched steps never falls. -/
theorem Course.stepsBefore_le {x : Piece} {t : List Exchange} {r : x.Result}
    (h : Course run x t r) : x.stepsBefore ≤ x.stepsAfter r := by
  induction h with
  | run => exact Nat.zero_le _
  | walk _ _ ih => exact ih
  | broken _ _ _ ih | stopped _ _ _ _ ih => exact Nat.le_of_succ_le ih
  | onward _ _ _ _ _ ih ihrest => exact Nat.le_trans (Nat.le_of_succ_le ih) ihrest
  | failed _ ih | last _ _ ih => exact ih
  | again _ _ _ _ ih ihrest => exact Nat.le_trans ih ihrest
  | fatal _ _ ih | bearable _ _ _ ih => exact ih
  | returned _ _ _ ih | thrown _ _ _ ih => exact ih
  | finished _ _ _ ih | unfinished _ _ _ ih =>
    exact Nat.le_trans ih (Nat.le_of_eq (Session.Progress.steps_afterCall ..).symm)
  | _ => exact Nat.le_refl _

namespace Session

open Plan

/-- Every call on some level takes a course. -/
def CallCourse (run : Session) (levels : Nat) : Prop :=
  ∀ {id p t r}, (run.call levels id p).Ends t r → Course run (.call levels id p) t r

variable {levels : Nat} {t : List Exchange}

theorem course_executeStep (hcall : CallCourse run levels) {s : Step} {p : Progress}
    {r : Progress × StepOutcome} (h : (run.executeStep (run.call levels) s p).Ends t r) :
    Course run (.attempt levels s p) t r := by
  unfold executeStep at h
  split at h
  · rename_i wiredId hkind
    split at h
    · rename_i hid
      obtain ⟨rfl, rfl⟩ := ends_done.mp h
      exact .nameless hkind hid
    · rename_i id hid
      obtain ⟨u, ⟨q, result⟩, v, rfl, hu, hv⟩ := ends_bind.mp h
      cases result with
      | ok value =>
        obtain ⟨rfl, rfl⟩ := ends_done.mp hv
        rw [List.append_nil]
        exact .returned hkind hid (hcall hu)
      | error e =>
        obtain ⟨rfl, rfl⟩ := ends_done.mp hv
        rw [List.append_nil]
        exact .thrown hkind hid (hcall hu)
  · rename_i hkind
    obtain ⟨u, result, v, rfl, hu, hv⟩ := ends_bind.mp h
    cases result with
    | ok effect =>
      obtain ⟨rfl, rfl⟩ := ends_done.mp hv
      rw [List.append_nil]
      exact .performed hkind hu
    | error e =>
      obtain ⟨rfl, rfl⟩ := ends_done.mp hv
      rw [List.append_nil]
      exact .unperformed hkind hu

/-- The events around the execution of a step are told whatever it comes to. -/
theorem course_bracketStep (hcall : CallCourse run levels) {w : Workflow} {s : Step}
    {number : Nat} {p : Progress} {r : Progress × StepOutcome}
    (h : (run.bracketStep (run.call levels) w s number p).Ends t r) :
    ∃ u startedAt endedAt, t = run.bracket w s number startedAt endedAt r.2 u ∧
      Course run (.attempt levels s p) u r := by
  unfold bracketStep at h
  obtain ⟨⟨⟩, t, rfl, htold⟩ := ends_request_bind.mp h
  obtain ⟨⟨⟩, t, rfl, hlogged⟩ := ends_request_bind.mp htold
  obtain ⟨startedAt, t, rfl, htimed⟩ := ends_request_bind.mp hlogged
  obtain ⟨u, ⟨q, outcome⟩, t, rfl, hu, hexecuted⟩ := ends_bind.mp htimed
  obtain ⟨endedAt, t, rfl, hended⟩ := ends_request_bind.mp hexecuted
  obtain ⟨⟨⟩, t, rfl, hdone⟩ := ends_request_bind.mp hended
  obtain ⟨rfl, rfl⟩ := ends_done.mp hdone
  refine ⟨u, startedAt, endedAt, ?_, course_executeStep hcall hu⟩
  simp [bracket, iteration]

theorem course_iterateOnce (hcall : CallCourse run levels) {w : Workflow} {s : Step}
    {number : Nat} {p : Progress} {r : Progress × Except RunError StepOutcome}
    (h : (run.iterateOnce (run.call levels) w s number p).Ends t r) :
    Course run (.iteration levels w s number p) t r := by
  unfold iterateOnce at h
  obtain ⟨rested, t, rfl, hrested⟩ := ends_request_bind.mp h
  cases rested with
  | false =>
    obtain ⟨rfl, rfl⟩ := ends_done.mp hrested
    exact .refused
  | true =>
    obtain ⟨u, ⟨q, outcome⟩, v, rfl, hu, hv⟩ := ends_bind.mp hrested
    obtain ⟨u, startedAt, endedAt, rfl, hattempt⟩ := course_bracketStep hcall hu
    dsimp only at hv
    split at hv
    · rename_i e hfatal
      obtain ⟨rfl, rfl⟩ := ends_done.mp hv
      rw [List.append_nil]
      exact .fatal hattempt hfatal
    · rename_i hfatal
      obtain ⟨v, _, t, rfl, hreport, hreported⟩ := ends_bind.mp hv
      obtain ⟨(whole : Bool), t, rfl, hdone⟩ := ends_request_bind.mp hreported
      have hr : t = [] ∧ r = (q, if whole then .ok outcome else .error .cancelled) := by
        cases whole with
        | true => exact ends_done.mp hdone
        | false => exact ends_done.mp hdone
      obtain ⟨rfl, rfl⟩ := hr
      exact .bearable hattempt hfatal hreport

theorem course_iterate (hcall : CallCourse run levels) {w : Workflow} {s : Step}
    {left number : Nat} {p : Progress} {r : Progress × Except RunError StepOutcome}
    (h : (run.iterate (run.call levels) w s left number p).Ends t r) :
    Course run (.repetition levels w s left number p) t r := by
  induction left generalizing number p t with
  | zero =>
    obtain ⟨rfl, rfl⟩ := ends_done.mp h
    exact .idle
  | succ left ih =>
    unfold iterate at h
    obtain ⟨u, ⟨q, result⟩, v, rfl, hu, hv⟩ := ends_bind.mp h
    have honce := course_iterateOnce hcall hu
    cases result with
    | error e =>
      obtain ⟨rfl, rfl⟩ := ends_done.mp hv
      rw [List.append_nil]
      exact .failed honce
    | ok outcome =>
      dsimp only at hv
      split at hv
      · rename_i hlast
        obtain ⟨rfl, rfl⟩ := ends_done.mp hv
        rw [List.append_nil]
        exact .last honce (by simpa using hlast)
      · rename_i hgoes
        obtain ⟨hleft, hbreak⟩ : left ≠ 0 ∧ breaksLoop s outcome = false := by
          simpa using hgoes
        exact .again honce hleft hbreak (ih hv)

/-- A walk takes its course as long as it is allowed no fewer steps than the run may still
    dispatch; what it is allowed then never matters. -/
theorem course_walkFrom (hcall : CallCourse run levels) {w : Workflow} {room : Nat}
    {id : Option String} {p : Progress} {r : Progress × Except RunError Unit}
    (hroom : run.rig.settings.maxSteps ≤ p.steps + room)
    (h : (run.walkFrom (run.call levels) w room id p).Ends t r) :
    Course run (.onward levels w room id p) t r := by
  induction room generalizing id p t with
  | zero =>
    unfold walkFrom at h
    cases id with
    | none =>
      obtain ⟨⟨⟩, t, rfl, hlogged⟩ := ends_request_bind.mp h
      obtain ⟨rfl, rfl⟩ := ends_done.mp hlogged
      exact .arrived
    | some id =>
      obtain ⟨u, blocked, v, rfl, hu, hv⟩ := ends_bind.mp h
      obtain ⟨rfl, rfl⟩ := ends_done.mp hv
      rcases ends_obstacle_iff.mp hu with ⟨rfl, rfl⟩ | ⟨rfl, rfl⟩
      · exact .halted
      · have hlimit : run.rig.settings.maxSteps ≤ p.steps := hroom
        simp only [hlimit, if_true, Option.getD_some, List.append_nil]
        exact .exhausted hlimit
  | succ room ih =>
    unfold walkFrom at h
    cases id with
    | none =>
      obtain ⟨⟨⟩, t, rfl, hlogged⟩ := ends_request_bind.mp h
      obtain ⟨rfl, rfl⟩ := ends_done.mp hlogged
      exact .arrived
    | some id =>
      obtain ⟨u, blocked, v, rfl, hu, hv⟩ := ends_bind.mp h
      rcases ends_obstacle_iff.mp hu with ⟨rfl, rfl⟩ | ⟨rfl, rfl⟩
      · obtain ⟨rfl, rfl⟩ := ends_done.mp hv
        exact .halted
      · by_cases hlimit : run.rig.settings.maxSteps ≤ p.steps
        · rw [if_pos hlimit] at hv
          obtain ⟨rfl, rfl⟩ := ends_done.mp hv
          exact .exhausted hlimit
        · have hfew := Nat.lt_of_not_le hlimit
          rw [if_neg hlimit] at hv
          dsimp only at hv
          split at hv
          · rename_i htarget
            obtain ⟨rfl, rfl⟩ := ends_done.mp hv
            exact .lost hfew htarget
          · rename_i s htarget
            obtain ⟨u, ⟨q, result⟩, v, rfl, hu, hrest⟩ := ends_bind.mp hv
            have hrepetition := course_iterate hcall hu
            cases result with
            | error e =>
              obtain ⟨rfl, rfl⟩ := ends_done.mp hrest
              rw [List.append_nil]
              exact .broken hfew htarget hrepetition
            | ok outcome =>
              dsimp only at hrest
              split at hrest
              · rename_i e hend
                obtain ⟨rfl, rfl⟩ := ends_done.mp hrest
                rw [List.append_nil]
                exact .stopped hfew htarget hrepetition hend
              · rename_i hend
                have hmore : p.steps + 1 ≤ q.steps := hrepetition.stepsBefore_le
                rw [List.singleton_append]
                refine .onward hfew htarget hrepetition hend (ih ?_ hrest)
                omega

theorem course_walk (hcall : CallCourse run levels) {w : Workflow} {p : Progress}
    {r : Progress × Except RunError Unit} (h : (run.walk (run.call levels) w p).Ends t r) :
    Course run (.walk levels w p) t r := by
  unfold walk at h
  dsimp only at h
  split at h
  · rename_i start hstart
    exact .walk hstart (course_walkFrom hcall (by dsimp only; omega) h)
  · rename_i hstart
    obtain ⟨rfl, rfl⟩ := ends_done.mp h
    exact .startless hstart
  · rename_i hone hnone
    obtain ⟨rfl, rfl⟩ := ends_done.mp h
    refine .forked ?_
    match hstarts : w.starts with
    | [] => exact absurd hstarts hnone
    | [start] => exact absurd hstarts (hone start)
    | _ :: _ :: _ => simp

theorem callCourse (levels : Nat) : CallCourse run levels := by
  induction levels with
  | zero =>
    intro id p t r h
    obtain ⟨rfl, rfl⟩ := ends_done.mp h
    exact .tooDeep
  | succ levels ih =>
    intro id p t r h
    unfold Session.call at h
    split at h
    · rename_i hstore
      obtain ⟨rfl, rfl⟩ := ends_done.mp h
      exact .storeless (by simpa using hstore)
    · rename_i hstore
      have hstored : run.rig.hasStore = true := by simpa using hstore
      obtain ⟨answer, t, rfl, hloaded⟩ := ends_request_bind.mp h
      dsimp only [done_bind] at hloaded
      split at hloaded
      · obtain ⟨rfl, rfl⟩ := ends_done.mp hloaded
        exact .unloaded hstored
      · obtain ⟨rfl, rfl⟩ := ends_done.mp hloaded
        exact .missing hstored
      · rename_i child
        obtain ⟨⟨⟩, t, rfl, hentered⟩ := ends_request_bind.mp hloaded
        obtain ⟨u, ⟨q, result⟩, v, rfl, hu, hv⟩ := ends_bind.mp hentered
        have hwalk := course_walk ih hu
        cases result with
        | ok value =>
          obtain ⟨⟨⟩, t, rfl, hdone⟩ := ends_request_bind.mp hv
          obtain ⟨rfl, rfl⟩ := ends_done.mp hdone
          exact .finished hstored rfl hwalk
        | error e =>
          obtain ⟨rfl, rfl⟩ := ends_done.mp hv
          rw [List.append_nil]
          exact .unfinished hstored rfl hwalk

/-- Every run takes its course. -/
theorem course_execute {w : Workflow} {vars : Variables} {r : RunRecord}
    (h : (run.execute w vars).Ends t r) : Course run (.run w vars) t r := by
  unfold execute at h
  obtain ⟨startedAt, t, rfl, hdated⟩ := ends_request_bind.mp h
  obtain ⟨startedMs, t, rfl, htimed⟩ := ends_request_bind.mp hdated
  obtain ⟨⟨⟩, t, rfl, hlogged⟩ := ends_request_bind.mp htimed
  obtain ⟨⟨⟩, t, rfl, htold⟩ := ends_request_bind.mp hlogged
  obtain ⟨u, ⟨q, result⟩, t, rfl, hu, hwalked⟩ := ends_bind.mp htold
  obtain ⟨endedMs, t, rfl, hended⟩ := ends_request_bind.mp hwalked
  obtain ⟨v, _, t, rfl, hannounce, hannounced⟩ := ends_bind.mp hended
  obtain ⟨finishedAt, t, rfl, hdone⟩ := ends_request_bind.mp hannounced
  obtain ⟨rfl, rfl⟩ := ends_done.mp hdone
  have hcourse := @Course.run run w vars startedAt finishedAt startedMs endedMs u v q result
    (course_walk (callCourse _) hu) hannounce
  simp only [List.cons_append, List.nil_append, List.append_assoc] at hcourse ⊢
  exact hcourse

end Session

end DeviceFlow
