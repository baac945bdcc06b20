import DeviceFlow.Proofs.Likeness.Plan

/-!
# Workflows that run alike

A run sees of a step only how it is told, how often and with which pauses it is executed, what it
does, and where it leads; and of a workflow only where it is entered, and which step it has for an
id. Workflows in which all this is the same run alike, if the workflows that they call do.
-/

namespace DeviceFlow

/-- The workflow that a step calls, when it calls one: its id, or none when that is not set. -/
def Step.called? (s : Step) : Option (Option String) :=
  match s.kind with
  | .subWorkflow id => some (wired id)
  | _ => none

/-- A step that no run can tell from another one. -/
structure Step.RunsLike (s s' : Step) : Prop where
  id : s'.id = s.id
  typeName : s'.typeName = s.typeName
  iterations : s'.iterations = s.iterations
  preWait : s'.preWaitMs = s.preWaitMs
  postDelay : s'.postDelayMs = s.postDelayMs
  policy : s'.onError = s.onError
  next : ∀ outcome, s'.next outcome = s.next outcome
  called : s'.called? = s.called?
  perform : ∀ rig vars, s'.perform rig vars = s.perform rig vars

/-- The id of the step at which a walk through a workflow begins, or why it cannot begin. -/
def Workflow.entry (w : Workflow) : Except RunError (Option String) :=
  match w.starts with
  | [start] => .ok (wired start.connections.onSuccess)
  | [] => .error (.noStartStep w.id)
  | starts => .error (.multipleStartSteps w.id starts.length)

/-- A workflow that no run can tell from another one. -/
structure Workflow.RunsLike (w w' : Workflow) : Prop where
  id : w'.id = w.id
  name : w'.name = w.name
  vars : w'.vars = w.vars
  size : w'.steps.length = w.steps.length
  entry : w'.entry = w.entry
  target : ∀ id, Option.Rel Step.RunsLike (w.target? id) (w'.target? id)

theorem Step.RunsLike.refl (s : Step) : s.RunsLike s :=
  ⟨rfl, rfl, rfl, rfl, rfl, rfl, fun _ => rfl, rfl, fun _ _ => rfl⟩

theorem Workflow.RunsLike.refl (w : Workflow) : w.RunsLike w where
  id := rfl
  name := rfl
  vars := rfl
  size := rfl
  entry := rfl
  target id := by
    cases w.target? id with
    | none => exact .none
    | some s => exact .some (.refl s)

namespace Session

open Plan

variable {run : Session} {R : Workflow → Workflow → Prop} {call call' : Call} {s s' : Step}
  {w w' : Workflow} {p : Progress}

/-- A step either calls a workflow or is performed. -/
theorem executeStep_eq (call : Call) (s : Step) (p : Progress) :
    run.executeStep call s p =
      match s.called? with
      | some none => pure (p, .failed (.missingParameters "sub_workflow" ["workflow_id"]))
      | some (some id) => (do
        match ← call (p.vars.substitute id) p with
        | (q, .ok ()) => pure (q, .ok)
        | (q, .error e) => pure (q, .failed e))
      | none => (do
        match ← (s.perform run.rig p.vars).run with
        | .ok (outcome, vars) => pure ({ p with vars := vars }, outcome)
        | .error e => pure (p, .failed e)) := by
  unfold executeStep Step.called?
  cases s.kind with
  | subWorkflow id =>
    dsimp only
    cases wired id with
    | none => rfl
    | some id => rfl
  | _ => rfl

theorem walk_eq (call : Call) (w : Workflow) (p : Progress) :
    run.walk call w p =
      match w.entry with
      | .ok id => run.walkFrom call w (run.rig.settings.maxSteps - p.steps) id
          { p with vars := p.vars.seed w.vars }
      | .error e => Plan.done ({ p with vars := p.vars.seed w.vars }, .error e) := by
  unfold walk Workflow.entry
  match w.starts with
  | [start] => rfl
  | [] => rfl
  | _ :: _ :: _ => rfl

theorem fatalError?_eq (hs : s.RunsLike s') (outcome : StepOutcome) :
    fatalError? s' outcome = fatalError? s outcome := by
  unfold fatalError?
  rw [hs.id]

theorem breaksLoop_eq (hs : s.RunsLike s') (outcome : StepOutcome) :
    breaksLoop s' outcome = breaksLoop s outcome := by
  unfold breaksLoop
  rw [hs.policy]

theorem endError?_eq (hs : s.RunsLike s') (outcome : StepOutcome) :
    endError? s' outcome = endError? s outcome := by
  unfold endError?
  rw [hs.id, hs.policy, hs.next]

section

variable (hcall : ∀ id p, (call id p).RunsLike R (call' id p))

include hcall

theorem runsLike_executeStep (hs : s.RunsLike s') (p : Progress) :
    (run.executeStep call s p).RunsLike R (run.executeStep call' s' p) := by
  rw [executeStep_eq, executeStep_eq, hs.called]
  match s.called? with
  | some none => exact .done _
  | some (some id) =>
    refine (hcall _ p).bind fun (q, result) => ?_
    cases result with
    | ok value => exact .done _
    | error e => exact .done _
  | none =>
    dsimp only
    rw [hs.perform]
    refine RunsLike.bind (.of_keeps (Q := fun _ => True) ?_) fun result => ?_
    · refine Keeps.mono (Step.modest_perform run.rig s p.vars) ?_ fun _ _ => trivial
      intro q hq
      cases q with
      | load id => exact hq
      | _ => trivial
    · cases result with
      | ok effect => exact .done _
      | error e => exact .done _

theorem runsLike_bracketStep (hid : w'.id = w.id) (hs : s.RunsLike s') (number : Nat)
    (p : Progress) :
    (run.bracketStep call w s number p).RunsLike R (run.bracketStep call' w' s' number p) := by
  unfold bracketStep
  rw [hid, hs.id, hs.typeName]
  refine (RunsLike.request (.emit _) trivial).bind fun _ => ?_
  refine (RunsLike.request (.log _) trivial).bind fun _ => ?_
  refine (RunsLike.request .clock trivial).bind fun startedAt => ?_
  refine (runsLike_executeStep hcall hs p).bind fun (q, outcome) => ?_
  refine (RunsLike.request .clock trivial).bind fun endedAt => ?_
  exact (RunsLike.request (.emit _) trivial).bind fun _ => .done _

theorem runsLike_iterateOnce (hid : w'.id = w.id) (hs : s.RunsLike s') (number : Nat)
    (p : Progress) :
    (run.iterateOnce call w s number p).RunsLike R (run.iterateOnce call' w' s' number p) := by
  unfold iterateOnce
  rw [hs.preWait, hs.postDelay]
  refine (RunsLike.request (.sleep _) trivial).bind fun rested => ?_
  cases rested with
  | false => exact .done _
  | true =>
    refine (runsLike_bracketStep hcall hid hs number p).bind fun (q, outcome) => ?_
    dsimp only
    rw [fatalError?_eq hs]
    cases fatalError? s outcome with
    | some e => exact .done _
    | none =>
      refine RunsLike.bind ?_ fun _ => ?_
      · unfold reportFailure
        rw [hs.id]
        exact .of_keeps (keeps_reportFailure (fun _ => trivial) s number outcome)
      · refine (RunsLike.request (.sleep _) trivial).bind fun whole => ?_
        cases whole with
        | true => exact .done _
        | false => exact .done _

theorem runsLike_iterate (hid : w'.id = w.id) (hs : s.RunsLike s') (left number : Nat)
    (p : Progress) :
    (run.iterate call w s left number p).RunsLike R (run.iterate call' w' s' left number p) := by
  induction left generalizing number p with
  | zero => exact .done _
  | succ left ih =>
    unfold iterate
    refine (runsLike_iterateOnce hcall hid hs number p).bind fun r => ?_
    obtain ⟨q, result⟩ := r
    cases result with
    | error e => exact .done _
    | ok outcome =>
      dsimp only
      rw [breaksLoop_eq hs]
      split
      · exact .done _
      · exact ih (number + 1) q

theorem runsLike_walkFrom (hw : w.RunsLike w') (room : Nat) (id : Option String) (p : Progress) :
    (run.walkFrom call w room id p).RunsLike R (run.walkFrom call' w' room id p) := by
  have hobstacle : ∀ p, (run.obstacle p).RunsLike R (run.obstacle p) :=
    fun p => .of_keeps (keeps_obstacle trivial p)
  induction room generalizing id p with
  | zero =>
    unfold walkFrom
    cases id with
    | none =>
      rw [hw.id]
      exact (RunsLike.request (.log _) trivial).bind fun _ => .done _
    | some id => exact (hobstacle p).bind fun _ => .done _
  | succ room ih =>
    unfold walkFrom
    cases id with
    | none =>
      rw [hw.id]
      exact (RunsLike.request (.log _) trivial).bind fun _ => .done _
    | some id =>
      refine (hobstacle p).bind fun blocked => ?_
      cases blocked with
      | some e => exact .done _
      | none =>
        dsimp only
        rw [hw.id]
        have htarget := hw.target id
        revert htarget
        generalize w.target? id = found, w'.target? id = found'
        intro htarget
        cases htarget with
        | none => exact .done _
        | some hs =>
          dsimp only
          rw [hs.iterations]
          refine (runsLike_iterate hcall hw.id hs _ _ _).bind fun r => ?_
          obtain ⟨q, result⟩ := r
          cases result with
          | error e => exact .done _
          | ok outcome =>
            dsimp only
            rw [endError?_eq hs, hs.next]
            split
            · exact .done _
            · exact ih _ q

theorem runsLike_walk (hw : w.RunsLike w') (p : Progress) :
    (run.walk call w p).RunsLike R (run.walk call' w' p) := by
  rw [walk_eq, walk_eq, hw.entry, hw.vars]
  cases w.entry with
  | ok id => exact runsLike_walkFrom hcall hw _ _ _
  | error e => exact .done _

end

/-- Calls of the same workflow run alike if the workflows that are given out do. -/
theorem runsLike_call (hR : ∀ child child', R child child' → child.RunsLike child')
    (levels : Nat) (id : String) (p : Progress) :
    (run.call levels id p).RunsLike R (run.call levels id p) := by
  induction levels generalizing id p with
  | zero => exact .done _
  | succ levels ih =>
    unfold Session.call
    split
    · exact .done _
    · refine RunsLike.ask fun loaded loaded' hloaded => ?_
      cases hloaded with
      | failed text => exact .done _
      | missing => exact .done _
      | found hchild =>
        have hlike := hR _ _ hchild
        dsimp only [Plan.bind]
        rw [hlike.id]
        refine (RunsLike.request (.log _) trivial).bind fun _ => ?_
        refine (runsLike_walk ih hlike p).bind fun r => ?_
        obtain ⟨q, result⟩ := r
        cases result with
        | ok value => exact (RunsLike.request (.log _) trivial).bind fun _ => .done _
        | error e => exact .done _

/-- A run of a workflow runs like one of its counterpart. -/
theorem runsLike_execute (hR : ∀ child child', R child child' → child.RunsLike child')
    (hw : w.RunsLike w') (vars : Variables) :
    (run.execute w vars).RunsLike R (run.execute w' vars) := by
  unfold execute
  rw [hw.id, hw.name, hw.size]
  refine (RunsLike.request .date trivial).bind fun startedAt => ?_
  refine (RunsLike.request .clock trivial).bind fun startedMs => ?_
  refine (RunsLike.request (.log _) trivial).bind fun _ => ?_
  refine (RunsLike.request (.emit _) trivial).bind fun _ => ?_
  refine (runsLike_walk (runsLike_call hR _) hw _).bind fun (q, result) => ?_
  refine (RunsLike.request .clock trivial).bind fun endedMs => ?_
  refine RunsLike.bind ?_ fun _ => (RunsLike.request .date trivial).bind fun finishedAt => .done _
  unfold announceEnd
  rw [hw.id, hw.name]
  exact .of_keeps (keeps_announceEnd (fun _ => trivial) (fun _ => trivial) trivial)

end Session

end DeviceFlow
