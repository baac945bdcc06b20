import DeviceFlow.Proofs.Likeness.Walk
import DeviceFlow.Workflow.Validation

/-!
# Settings that are not set

An empty id or name, a number of repetitions below one and a limit of zero mean the same as a
setting that is left out. A workflow has a normal form in which they are left out; it is as valid as
the workflow, for the same reason, and runs like it.
-/

namespace DeviceFlow

/-- Leaves out an empty text. -/
def leaveOut (text : Option String) : Option String := if text = some "" then none else text

/-- What a step does, with empty names left out where they mean that there is none. -/
def StepKind.normal : StepKind → StepKind
  | .shell command saveTo => .shell command (leaveOut saveTo)
  | .subWorkflow id => .subWorkflow (leaveOut id)
  | kind => kind

/-- The step with the settings left out that mean the same as none. -/
def Step.normal (s : Step) : Step :=
  { s with
    kind := s.kind.normal
    loopCount := if s.loopCount < 1 then 1 else s.loopCount
    timeoutMs := if s.timeoutMs = some 0 then none else s.timeoutMs
    connections := s.connections.map leaveOut }

/-- The workflow with the settings of its steps left out that mean the same as none. -/
def Workflow.normal (w : Workflow) : Workflow := { w with steps := w.steps.map Step.normal }

@[simp] theorem wired_leaveOut (id : Option String) : wired (leaveOut id) = wired id := by
  unfold leaveOut
  split
  · rename_i hempty
    rw [hempty]
    rfl
  · rfl

@[simp] theorem Connections.targets_map_leaveOut (c : Connections) :
    (c.map leaveOut).targets = c.targets := by
  simp [targets, Connections.map, List.filterMap_cons]

namespace StepKind

variable (kind : StepKind)

@[simp] theorem typeName_normal : kind.normal.typeName = kind.typeName := by
  cases kind <;> rfl

@[simp] theorem isBranch_normal : kind.normal.isBranch = kind.isBranch := by
  cases kind <;> rfl

@[simp] theorem isStart_normal : kind.normal.isStart = kind.isStart := by
  cases kind <;> rfl

end StepKind

namespace Step

variable (s : Step)

theorem iterations_normal : s.normal.iterations = s.iterations := by
  unfold iterations normal
  dsimp only
  split
  · rename_i hbelow
    have hbelow' : s.loopCount.toInt < 1 := Int32.lt_iff_toInt_lt.mp hbelow
    have hone : (1 : Int32).toInt = 1 := rfl
    omega
  · rfl

theorem limitMs_normal : s.normal.limitMs = s.limitMs := by
  unfold limitMs normal
  dsimp only
  split
  · rename_i hzero
    rw [hzero]
    rfl
  · rfl

theorem next_normal (outcome : StepOutcome) : s.normal.next outcome = s.next outcome := by
  simp [next, normal, Connections.map]

theorem called?_normal : s.normal.called? = s.called? := by
  have hkind : s.normal.kind = s.kind.normal := rfl
  unfold called?
  rw [hkind]
  cases s.kind with
  | subWorkflow id => exact congrArg some (wired_leaveOut id)
  | _ => rfl

theorem performElement_normal (rig : Rig) (kind : Option ElementActionKind)
    (selector : Option Selector) (text : Option String) (direction : Option Direction)
    (vars : Variables) :
    performElement rig s.normal kind selector text direction vars =
      performElement rig s kind selector text direction vars := by
  unfold performElement
  rw [limitMs_normal]

theorem performRead_normal (rig : Rig) (name : Option String) (selector : Option Selector)
    (what : Attribute) (vars : Variables) :
    performRead rig s.normal name selector what vars =
      performRead rig s name selector what vars := by
  unfold performRead
  rw [limitMs_normal]

theorem performShell_leaveOut (command saveTo : Option String) (vars : Variables) :
    performShell command (leaveOut saveTo) vars = performShell command saveTo vars := by
  unfold performShell
  rw [wired_leaveOut]

theorem perform_normal (rig : Rig) (vars : Variables) :
    s.normal.perform rig vars = s.perform rig vars := by
  have hkind : s.normal.kind = s.kind.normal := rfl
  have htype : s.normal.typeName = s.typeName := s.kind.typeName_normal
  unfold perform
  rw [hkind, htype]
  cases s.kind with
  | element action selector text direction => exact performElement_normal s ..
  | readToVariable name selector what => exact performRead_normal s ..
  | shell command saveTo => exact performShell_leaveOut ..
  | _ => rfl

/-- No run can tell a step from its normal form. -/
theorem runsLike_normal : s.RunsLike s.normal where
  id := rfl
  typeName := s.kind.typeName_normal
  iterations := s.iterations_normal
  preWait := rfl
  postDelay := rfl
  policy := rfl
  next := s.next_normal
  called := s.called?_normal
  perform := s.perform_normal

end Step

namespace Workflow

variable (w : Workflow)

theorem stepIds_normal : w.normal.stepIds = w.stepIds := by
  simp [stepIds, normal, Step.normal]

theorem starts_normal : w.normal.starts = w.starts.map Step.normal := by
  unfold starts normal
  rw [List.filter_map]
  congr 1
  exact List.filter_congr fun s _ => s.kind.isStart_normal

theorem target?_normal (id : String) : w.normal.target? id = (w.target? id).map Step.normal := by
  unfold target? normal
  rw [← List.map_reverse, List.find?_map]
  rfl

theorem entry_normal : w.normal.entry = w.entry := by
  unfold entry
  rw [starts_normal]
  match w.starts with
  | [] => rfl
  | [start] => exact congrArg Except.ok (wired_leaveOut start.connections.onSuccess)
  | _ :: _ :: _ => simp [normal]

/-- No run can tell a workflow from its normal form. -/
theorem runsLike_normal : w.RunsLike w.normal where
  id := rfl
  name := rfl
  vars := rfl
  size := List.length_map ..
  entry := w.entry_normal
  target id := by
    rw [target?_normal]
    cases w.target? id with
    | none => exact .none
    | some s => exact .some s.runsLike_normal

theorem checkIds_normal (seen : List String) (steps : List Step) :
    checkIds seen (steps.map Step.normal) = checkIds seen steps := by
  induction steps generalizing seen with
  | nil => rfl
  | cons s rest ih =>
    rw [List.map_cons]
    unfold checkIds
    rw [ih]
    rfl

theorem checkStarts_normal : w.normal.checkStarts = w.checkStarts := by
  unfold checkStarts
  rw [starts_normal]
  match w.starts with
  | [] => rfl
  | [_] => rfl
  | _ :: _ :: _ => simp [Step.normal]

theorem checkReferences_normal (ids : List String) (steps : List Step) :
    checkReferences ids (steps.map Step.normal) = checkReferences ids steps := by
  have htargets : ∀ s : Step, s.normal.connections.targets = s.connections.targets :=
    fun s => s.connections.targets_map_leaveOut
  induction steps with
  | nil => rfl
  | cons s rest ih =>
    rw [List.map_cons]
    unfold checkReferences danglingTarget?
    rw [ih, htargets]
    rfl

/-- A validation finds out the same about a workflow and its normal form. -/
theorem validate_normal : w.normal.validate = w.validate := by
  have hempty : w.normal.steps.isEmpty = w.steps.isEmpty := List.isEmpty_map
  unfold validate
  rw [hempty, checkStarts_normal, stepIds_normal]
  unfold normal
  rw [checkIds_normal, checkReferences_normal]

end Workflow

namespace Session

/-- Settings that are left out mean the same as an empty id or name, as less than one repetition,
    and as a limit of zero. A workflow has the same flaw as its normal form, or is as valid, and in
    the same surroundings a run of the one cannot be told apart from a run of the other; the store
    may give out each workflow as it is or in its normal form. -/
theorem sameRun_normal (run : Session) (w : Workflow) (vars : Variables)
    {reply reply' : Surroundings} {R : Workflow → Workflow → Prop}
    (hR : ∀ child child', R child child' → child' = child ∨ child' = child.normal)
    (hreply : reply.Alike R reply') :
    w.normal.validate = w.validate ∧
      SameRun ((run.execute w vars).under reply) ((run.execute w.normal vars).under reply') := by
  have hlike : ∀ child child', True ∧ R child child' → child.RunsLike child' := by
    intro child child' h
    rcases hR child child' h.2 with rfl | rfl
    · exact .refl child'
    · exact child.runsLike_normal
  have hplan : (run.execute w vars).RunsLike _ (run.execute w.normal vars) :=
    runsLike_execute hlike w.runsLike_normal vars
  exact ⟨w.validate_normal, hplan.sameRun hreply fun _ _ => trivial⟩

/-- A workflow that is repeated less than once. -/
def hasty : Workflow :=
  .ofSteps "hasty"
    [(Step.new "start" .start).andThen "wait",
      { (Step.new "wait" (.wait (some 5))).onFailure "" with loopCount := 0 }]

/-- A workflow with a setting of every kind that means the same as none. -/
def careless : Workflow :=
  .ofSteps "careless"
    [(Step.new "start" .start).andThen "click",
      { ((Step.new "click" (.element (some .click) (some ⟨.text, "OK"⟩) none none)).andThen
          "date").onFailure "" with timeoutMs := some 0, loopCount := -2 },
      (Step.new "date" (.shell (some "date") (some ""))).andThen "call",
      (Step.new "call" (.subWorkflow (some "hasty"))).andThen "nothing",
      (Step.new "nothing" (.subWorkflow (some ""))).branches "" ""]

/-- A run that calls a workflow, and fails at the step that is to call none. -/
theorem sameRun_normal_careless :
    let run : Session := ⟨⟨.default, false, false, true⟩, "d"⟩
    let x := (run.execute careless Dict.empty).under (.holding hasty)
    let y := (run.execute careless.normal Dict.empty).under (.holding hasty.normal)
    careless.normal ≠ careless ∧ hasty.normal ≠ hasty ∧ deepest 0 (eventsOf x.1) = 2 ∧
      x.2.error =
        some "step 'nothing' failed: sub_workflow step is missing parameters: workflow_id" ∧
      careless.normal.validate = careless.validate ∧ SameRun x y := by
  intro run x y
  have hstored : Surroundings.Alike (fun w w' => w' = w.normal) (.holding hasty)
      (.holding hasty.normal) := Surroundings.holding_alike rfl
  have hsame := sameRun_normal run careless Dict.empty (fun _ _ => .inr) hstored
  refine ⟨by decide, by decide, ?_, ?_, hsame⟩
  · decide +kernel
  · decide +kernel

end Session

end DeviceFlow
