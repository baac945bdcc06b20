import DeviceFlow.Proofs.Likeness.Walk
import DeviceFlow.Proofs.Wiring.Visit
import DeviceFlow.Proofs.Wiring.WellFormed

/-!
# The order of the steps

Where the ids of the steps differ, nothing depends on the order in which a workflow lists them: not
whether it is valid, not where a run enters it, and not which step the run finds for an id.
-/

namespace DeviceFlow

/-- The workflow with its steps in some order. -/
structure Workflow.Reorders (w w' : Workflow) : Prop where
  id : w'.id = w.id
  name : w'.name = w.name
  vars : w'.vars = w.vars
  steps : w'.steps.Perm w.steps

namespace Workflow

variable {w w' : Workflow}

theorem Reorders.stepIds (h : w.Reorders w') : w'.stepIds.Perm w.stepIds :=
  h.steps.map _

theorem Reorders.starts (h : w.Reorders w') : w'.starts.Perm w.starts :=
  h.steps.filter _

theorem Reorders.symm (h : w.Reorders w') : w'.Reorders w :=
  ⟨h.id.symm, h.name.symm, h.vars.symm, h.steps.symm⟩

theorem Reorders.entry (h : w.Reorders w') : w'.entry = w.entry := by
  have hstarts := h.starts
  unfold Workflow.entry
  rw [h.id]
  match hw : w.starts with
  | [] =>
    rw [hw] at hstarts
    rw [hstarts.eq_nil]
  | [start] =>
    rw [hw] at hstarts
    rw [hstarts.eq_singleton]
  | _ :: _ :: _ =>
    rw [hw] at hstarts
    match hw' : w'.starts with
    | [] => simp [hw'] at hstarts
    | [_] => simp [hw'] at hstarts
    | _ :: _ :: _ =>
      have hlength := hstarts.length_eq
      rw [hw'] at hlength
      simp only [hlength]

/-- Where the ids of the steps differ, an id leads to the same step in every order. -/
theorem Reorders.target? (h : w.Reorders w') (hdistinct : w.stepIds.Nodup) (id : String) :
    w'.target? id = w.target? id := by
  cases hfound : w.target? id with
  | none =>
    rw [target?_eq_none_iff] at hfound ⊢
    intro s hs
    exact hfound s (h.steps.mem_iff.mp hs)
  | some s =>
    obtain ⟨hs, hid⟩ := mem_of_target? hfound
    cases hfound' : w'.target? id with
    | none => exact absurd hid (target?_eq_none_iff.mp hfound' s (h.steps.mem_iff.mpr hs))
    | some s' =>
      obtain ⟨hs', hid'⟩ := mem_of_target? hfound'
      have hsame : s'.id = s.id := hid'.trans hid.symm
      rw [List.inj_on_of_nodup_map hdistinct (h.steps.mem_iff.mp hs') hs hsame]

theorem Reorders.runsLike (h : w.Reorders w') (hdistinct : w.stepIds.Nodup) : w.RunsLike w' where
  id := h.id
  name := h.name
  vars := h.vars
  size := h.steps.length_eq
  entry := h.entry
  target id := by
    rw [h.target? hdistinct]
    cases w.target? id with
    | none => exact .none
    | some s => exact .some (.refl s)

/-- A workflow stays well-formed in every order of its steps. -/
theorem WellFormed.of_reorders (hw : w.WellFormed) (h : w.Reorders w') : w'.WellFormed where
  nonempty hnil := hw.nonempty (List.nil_perm.mp (hnil ▸ h.steps))
  named s hs := hw.named s (h.steps.mem_iff.mp hs)
  distinct := h.stepIds.nodup_iff.mpr hw.distinct
  oneStart := h.starts.length_eq.trans hw.oneStart
  closed s hs target htarget :=
    h.stepIds.mem_iff.mpr (hw.closed s (h.steps.mem_iff.mp hs) target htarget)

theorem Reorders.validate_iff (h : w.Reorders w') : w'.validate = .ok () ↔ w.validate = .ok () := by
  rw [validate_eq_ok_iff, validate_eq_ok_iff]
  exact ⟨fun hw => hw.of_reorders h.symm, fun hw => hw.of_reorders h⟩

/-- The workflow with its steps from the last one to the first one. -/
def backwards (w : Workflow) : Workflow := { w with steps := w.steps.reverse }

theorem reorders_backwards (w : Workflow) : w.Reorders w.backwards :=
  ⟨rfl, rfl, rfl, List.reverse_perm w.steps⟩

end Workflow

namespace Session

open Workflow

/-- The order of the steps has no meaning where their ids differ. A workflow in another order is
    valid just when it was, and in the same surroundings a run of it cannot be told apart from a run
    of the workflow as it was; the store may give out each workflow as it was or in another order
    too. -/
theorem sameRun_of_reorders (run : Session) {w w' : Workflow} (vars : Variables)
    {reply reply' : Surroundings} {R : Workflow → Workflow → Prop} (hw : w.Reorders w')
    (hdistinct : w.stepIds.Nodup) (hR : ∀ child child', R child child' → child.Reorders child')
    (hreply : reply.Alike R reply')
    (hloaded : ∀ child, Loaded ((run.execute w vars).under reply).1 child → child.stepIds.Nodup) :
    SameRun ((run.execute w vars).under reply) ((run.execute w' vars).under reply') ∧
      (w'.validate = .ok () ↔ w.validate = .ok ()) := by
  have hlike : ∀ child child', child.stepIds.Nodup ∧ R child child' → child.RunsLike child' :=
    fun child child' h => (hR child child' h.2).runsLike h.1
  have hplan : (run.execute w vars).RunsLike _ (run.execute w' vars) :=
    runsLike_execute hlike (hw.runsLike hdistinct) vars
  exact ⟨hplan.sameRun hreply hloaded, hw.validate_iff⟩

/-- A run that calls itself until it has used up its steps, with the steps in either order. -/
theorem sameRun_backwards_rounds :
    let run : Session := ⟨threeSteps.rig, "d"⟩
    let x := (run.execute rounds Dict.empty).under (.holding rounds)
    let y := (run.execute rounds.backwards Dict.empty).under (.holding rounds.backwards)
    rounds.backwards.steps ≠ rounds.steps ∧ deepest 0 (eventsOf x.1) = 2 ∧ x.2.status = .error ∧
      SameRun x y ∧ (rounds.backwards.validate = .ok () ↔ rounds.validate = .ok ()) := by
  intro run x y
  have hdistinct : rounds.stepIds.Nodup := by decide
  have hanswered : Plan.AnsweredBy (Surroundings.holding rounds) x.1 := (Plan.under_eq_iff.mp rfl).2
  have hsame := sameRun_of_reorders run Dict.empty (reorders_backwards rounds) hdistinct
    (fun _ _ => id) (Surroundings.holding_alike (reorders_backwards rounds))
    (fun child hchild => Surroundings.eq_of_holding hanswered hchild ▸ hdistinct)
  refine ⟨by decide, ?_, ?_, hsame⟩
  · decide +kernel
  · decide +kernel

end Session

end DeviceFlow
