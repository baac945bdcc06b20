import DeviceFlow.Proofs.Wiring.Edge
import DeviceFlow.Proofs.Wiring.Member
import DeviceFlow.Workflow.Validation
import Mathlib.Data.List.Nodup

/-!
# Visits of a walk

A walk visits one step after the other, each with all its iterations. The last iteration of a
visit decides where the walk goes next; how the visits follow each other, and how the walk ends
after them, is put here in terms of the graph of the workflow alone.
-/

namespace DeviceFlow

/-- A visit of a walk to a step, with the outcome of the last iteration. -/
structure Visit where
  step : Step
  exchanges : List Exchange
  outcome : StepOutcome

namespace Visit

/-- What a walk exchanges in a visit: it looks at its token before the step. -/
def trace (v : Visit) : List Exchange := ⟨.isCancelled, false⟩ :: v.exchanges

/-- The id to which the wiring leads after a visit. -/
def target? (v : Visit) : Option String := v.step.edge v.outcome.verdict

/-- The error of a walk that ends after a visit. -/
def failure? (v : Visit) : Option RunError :=
  match v.step.onError with
  | .stop => v.outcome.error.map (.stepFailed v.step.id ·)
  | .proceed => none

end Visit

/-- The condition of a branch step has a value along a trace. -/
def Step.Evaluates (s : Step) (rig : Rig) (vars : Variables) (t : List Exchange) (value : Bool) :
    Prop :=
  ∃ condition selector variableName expectedValue,
    s.kind = .branch condition selector variableName expectedValue ∧
      (BranchParameters.evaluate ⟨condition, selector, variableName, expectedValue⟩
        rig vars).run.Ends t (.ok value)

/-- The step has been visited: all its iterations have ended, and the outcome is that of the last
    one, which the walk can go on with. -/
structure Visit.Ran (run : Session) (levels : Nat) (w : Workflow) (v : Visit) : Prop where
  iterated : ∃ p q, (run.iterate (run.call levels) w v.step v.step.iterations 1 p).Ends
    v.exchanges (q, .ok v.outcome)
  last : ∃ number p q startedAt endedAt b t u,
    v.exchanges = b ++ (run.bracket w v.step number startedAt endedAt v.outcome t ++ u) ∧
      (run.executeStep (run.call levels) v.step p).Ends t (q, v.outcome) ∧
      (∀ x ∈ u, x.request.acts = false) ∧
      ∀ value, v.outcome.verdict = .held value ↔ v.step.Evaluates run.rig p.vars t value
  bearable : ∀ e, v.outcome.error = some e → e ≠ .cancelled ∧ e.isFatal = false

/-- From one id to another, visits follow each other along the wiring. -/
inductive Workflow.Along (w : Workflow) : Option String → List Visit → Option String → Prop where
  | here (id : Option String) : Along w id [] id
  | visit {id : String} {v : Visit} {visits : List Visit} {last : Option String}
      (hstep : w.step? id = some v.step) (hrest : Along w v.target? visits last) :
      Along w (some id) (v :: visits) last

/-- How a walk ends after some visits, when the wiring leads to an id or nowhere. -/
inductive Ending (run : Session) (levels : Nat) (w : Workflow) (visits : List Visit) :
    Option String → List Exchange → Progress × Except RunError Unit → Prop where
  | well {p : Progress} (h : visits.getLast?.bind Visit.failure? = none) :
      Ending run levels w visits none
        [⟨.log (.debug .run s!"Workflow '{w.id}' reached the end of its graph"), ()⟩] (p, .ok ())
  | failed {p : Progress} {e : RunError} (h : visits.getLast?.bind Visit.failure? = some e) :
      Ending run levels w visits none [] (p, .error e)
  | cancelled {id : String} {p : Progress} :
      Ending run levels w visits (some id) [⟨.isCancelled, true⟩] (p, .error .cancelled)
  | exhausted {id : String} {p : Progress} (hlimit : run.rig.settings.maxSteps ≤ p.steps) :
      Ending run levels w visits (some id) [⟨.isCancelled, false⟩]
        (p, .error (.stepBudgetExceeded run.rig.settings.maxSteps))
  | lost {id : String} {p : Progress} (hstep : w.step? id = none) :
      Ending run levels w visits (some id) [⟨.isCancelled, false⟩]
        (p, .error (.corruptGraph w.id id))
  /-- The step is dispatched, and breaks off the run. -/
  | broken {id : String} {s : Step} {p q : Progress} {t : List Exchange} {e : RunError}
      (hstep : w.step? id = some s)
      (hends : (run.iterate (run.call levels) w s s.iterations 1 p).Ends t (q, .error e))
      (he : e = .cancelled ∨ e.isFatal = true) :
      Ending run levels w visits (some id) (⟨.isCancelled, false⟩ :: t) (q, .error e)

namespace Workflow

/-- Where the ids of the steps differ, a run reaches by an id the step that has it. -/
theorem target?_eq_step? {w : Workflow} (hw : w.stepIds.Nodup) (id : String) :
    w.target? id = w.step? id := by
  cases hstep : w.step? id with
  | none =>
    have hnone : ∀ s ∈ w.steps, s.id ≠ id := by simpa [step?] using hstep
    exact target?_eq_none_iff.mpr hnone
  | some s =>
    have hmem : s ∈ w.steps := List.mem_of_find?_eq_some hstep
    have hid : s.id = id := by simpa using List.find?_some hstep
    cases htarget : w.target? id with
    | none => exact absurd hid (target?_eq_none_iff.mp htarget s hmem)
    | some s' =>
      have hs' := mem_of_target? htarget
      have hsame : s'.id = s.id := hs'.2.trans hid.symm
      rw [List.inj_on_of_nodup_map hw hs'.1 hmem hsame]

end Workflow

/-- A branch step ends along a trace with the value that its condition has along it. -/
theorem ends_performBranch_iff {rig : Rig} {parameters : BranchParameters}
    {vars vars' : Variables} {t : List Exchange} {o : StepOutcome} :
    (performBranch rig parameters vars).run.Ends t (.ok (o, vars')) ↔
      ∃ value, (parameters.evaluate rig vars).run.Ends t (.ok value) ∧ o = .condition value ∧
        vars' = vars := by
  unfold performBranch
  rw [ExceptT.run_bind, Plan.ends_bind]
  constructor
  · intro h
    obtain ⟨u, result, v, rfl, hu, hv⟩ := h
    cases result with
    | error e =>
      have hdone := (Plan.ends_done.mp hv).2
      cases hdone
    | ok value =>
      obtain ⟨rfl, heffect⟩ := Plan.ends_done.mp hv
      cases heffect
      rw [List.append_nil]
      exact ⟨value, hu, rfl, rfl⟩
  · intro h
    obtain ⟨value, hvalue, rfl, rfl⟩ := h
    exact ⟨t, .ok value, [], (List.append_nil t).symm, hvalue, .here _⟩

namespace StepOutcome

variable {o : StepOutcome} {value : Bool}

/-- The wiring is told of a condition only when there is no error. -/
theorem verdict_eq_held_iff :
    o.verdict = .held value ↔ o.error = none ∧ o.isCondition = true ∧ o.success = value := by
  unfold verdict
  cases o.error with
  | some e => simp
  | none =>
    cases o.isCondition with
    | true => simp
    | false => simp

end StepOutcome

variable {run : Session} {levels : Nat} {w : Workflow} {s : Step} {p q : Progress}
  {t : List Exchange} {outcome : StepOutcome}

/-- The wiring is told of the condition of a branch step just when it has been evaluated. -/
theorem Course.verdict_eq_held_iff (h : Course run (.attempt levels s p) t (q, outcome))
    {value : Bool} : outcome.verdict = .held value ↔ s.Evaluates run.rig p.vars t value := by
  rw [StepOutcome.verdict_eq_held_iff]
  constructor
  · intro hheld
    obtain ⟨herror, hcondition, rfl⟩ := hheld
    cases h with
    | nameless | thrown | unperformed => cases herror
    | returned => cases hcondition
    | performed hkind h =>
      have hsuits := (Plan.Keeps.follows (Step.leaves_perform ..) h).2
      have hbranch : s.kind.isBranch = true := hsuits.2.1.symm.trans hcondition
      unfold Step.perform at h
      cases hs : s.kind with
      | branch condition selector variableName expectedValue =>
        rw [hs] at h
        obtain ⟨value, hvalue, rfl, _⟩ := ends_performBranch_iff.mp h
        exact ⟨_, _, _, _, hs, hvalue⟩
      | _ =>
        rw [hs] at hbranch
        cases hbranch
  · intro hvalue
    obtain ⟨condition, selector, variableName, expectedValue, hs, hvalue⟩ := hvalue
    have hperform : (s.perform run.rig p.vars).run.Ends t (.ok (.condition value, p.vars)) := by
      unfold Step.perform
      rw [hs]
      exact ends_performBranch_iff.mpr ⟨value, hvalue, rfl, rfl⟩
    cases h with
    | nameless hkind | returned hkind | thrown hkind =>
      rw [hs] at hkind
      cases hkind
    | performed hkind h =>
      have hsame := Plan.Ends.unique hperform h
      cases hsame
      exact ⟨rfl, rfl, rfl⟩
    | unperformed hkind h =>
      have hsame := Plan.Ends.unique hperform h
      cases hsame

end DeviceFlow
