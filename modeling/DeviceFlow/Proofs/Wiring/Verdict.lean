import DeviceFlow.Proofs.Wiring.Edit

/-!
# Verdicts of a validation

A validation accepts the workflows that are graphs with one entry: there are steps, they have names
of their own, one of them is the start step, and whatever connection is set leads to a step. When it
refuses a workflow, what it says is true of the workflow.
-/

namespace DeviceFlow

namespace Workflow

/-- A workflow is a graph with one entry. -/
structure IsGraph (w : Workflow) : Prop where
  /-- There is a step. -/
  inhabited : ∃ s, s ∈ w.steps
  /-- Every id has a character that is not blank. -/
  named : ∀ s ∈ w.steps, ∃ c ∈ s.id.toList, Text.isBlank c = false
  /-- No two steps have one id. -/
  distinct : w.steps.Pairwise fun s s' => s.id ≠ s'.id
  /-- Just one step is a start step. -/
  entry : w.steps.countP (·.kind = .start) = 1
  /-- A connection that is not empty leads to a step, on whatever step it is set. -/
  closed : ∀ s ∈ w.steps, ∀ slot ∈ slots, ∀ id, slot s.connections = some id → id ≠ "" →
    ∃ s' ∈ w.steps, s'.id = id

end Workflow

/-- What an error says is true of a workflow. -/
def ValidationError.TrueOf (w : Workflow) : ValidationError → Prop
  | .emptyWorkflow => w.steps = []
  | .emptyStepId => ∃ s ∈ w.steps, ∀ c ∈ s.id.toList, Text.isBlank c = true
  | .duplicateStepId id => 2 ≤ w.steps.countP (·.id = id)
  | .missingStartStep => ∀ s ∈ w.steps, s.kind ≠ .start
  | .multipleStartSteps ids =>
    ids = (w.steps.filter (·.kind = .start)).map (·.id) ∧ 2 ≤ ids.length
  | .invalidReference step reference =>
    ∃ s ∈ w.steps, s.id = step ∧ reference ≠ "" ∧
      (∃ slot ∈ Workflow.slots, slot s.connections = some reference) ∧
      ∀ s' ∈ w.steps, s'.id ≠ reference

theorem Text.isBlankText_eq_false_iff {text : String} :
    isBlankText text = false ↔ ∃ c ∈ text.toList, isBlank c = false := by
  simp [isBlankText]

theorem StepKind.isStart_iff {kind : StepKind} : kind.isStart = true ↔ kind = .start := by
  cases kind with
  | start => exact iff_of_true rfl rfl
  | _ => exact iff_of_false Bool.false_ne_true nofun

namespace Workflow

variable {w : Workflow} {e : ValidationError}

theorem starts_eq_filter (w : Workflow) : w.starts = w.steps.filter (·.kind = .start) := by
  refine List.filter_congr fun s _ => ?_
  rw [Bool.eq_iff_iff, StepKind.isStart_iff, decide_eq_true_iff]

theorem isGraph_iff : w.IsGraph ↔ w.WellFormed := by
  have hnamed : (∀ s ∈ w.steps, Text.isBlankText s.id = false) ↔
      ∀ s ∈ w.steps, ∃ c ∈ s.id.toList, Text.isBlank c = false :=
    forall₂_congr fun s _ => Text.isBlankText_eq_false_iff
  have hdistinct : w.stepIds.Nodup ↔ w.steps.Pairwise fun s s' => s.id ≠ s'.id :=
    List.pairwise_map
  have hentry : w.starts.length = w.steps.countP (·.kind = .start) := by
    rw [starts_eq_filter, List.countP_eq_length_filter]
  have hclosed : ∀ s : Step, (∀ target ∈ s.connections.targets, target ∈ w.stepIds) ↔
      ∀ slot ∈ slots, ∀ id, slot s.connections = some id → id ≠ "" →
        ∃ s' ∈ w.steps, s'.id = id := by
    intro s
    simp only [mem_targets_iff, stepIds, List.mem_map]
    constructor
    · intro h slot hslot id hid hne
      exact h id ⟨hne, slot, hslot, hid⟩
    · rintro h id ⟨hne, slot, hslot, hid⟩
      exact h slot hslot id hid hne
  constructor
  · intro h
    exact ⟨List.ne_nil_of_mem h.inhabited.choose_spec, hnamed.mpr h.named,
      hdistinct.mpr h.distinct, hentry.trans h.entry,
      fun s hs => (hclosed s).mpr (h.closed s hs)⟩
  · intro h
    exact ⟨List.exists_mem_of_ne_nil _ h.nonempty, hnamed.mp h.named, hdistinct.mp h.distinct,
      hentry.symm.trans h.oneStart, fun s hs => (hclosed s).mp (h.closed s hs)⟩

/-! ## Refusals -/

/-- The ids are refused because of a blank one, or of one that has been seen before. -/
theorem checkIds_eq_error {seen : List String} {steps : List Step}
    (h : checkIds seen steps = .error e) :
    (e = .emptyStepId ∧ ∃ s ∈ steps, Text.isBlankText s.id = true) ∨
      ∃ id, e = .duplicateStepId id ∧ 2 ≤ (seen ++ steps.map (·.id)).count id := by
  induction steps generalizing seen with
  | nil => cases h
  | cons s rest ih =>
    unfold checkIds at h
    split at h
    · rename_i hblank
      cases h
      exact .inl ⟨rfl, s, List.mem_cons_self, hblank⟩
    · split at h
      · rename_i hseen
        cases h
        refine .inr ⟨s.id, rfl, ?_⟩
        have hbefore : 0 < seen.count s.id :=
          List.count_pos_iff.mpr (List.contains_iff_mem.mp hseen)
        rw [List.count_append, List.map_cons, List.count_cons_self]
        omega
      · rcases ih h with ⟨rfl, s', hs', hblank⟩ | ⟨id, rfl, hcount⟩
        · exact .inl ⟨rfl, s', List.mem_cons_of_mem _ hs', hblank⟩
        · refine .inr ⟨id, rfl, ?_⟩
          rwa [List.map_cons, List.perm_middle.count_eq]

theorem checkStarts_eq_error (h : w.checkStarts = .error e) :
    (e = .missingStartStep ∧ w.starts = []) ∨
      (e = .multipleStartSteps (w.starts.map (·.id)) ∧ 2 ≤ w.starts.length) := by
  unfold checkStarts at h
  split at h
  · rename_i hnone
    cases h
    exact .inl ⟨rfl, hnone⟩
  · cases h
  · rename_i hnone hone
    cases h
    refine .inr ⟨rfl, ?_⟩
    match hstarts : w.starts with
    | [] => exact absurd hstarts hnone
    | [start] => exact absurd hstarts (hone start)
    | _ :: _ :: _ => simp

/-- The connections are refused because of one that leads to none of the ids. -/
theorem checkReferences_eq_error {ids : List String} {steps : List Step}
    (h : checkReferences ids steps = .error e) :
    ∃ s ∈ steps, ∃ target ∈ s.connections.targets,
      target ∉ ids ∧ e = .invalidReference s.id target := by
  induction steps with
  | nil => cases h
  | cons s rest ih =>
    unfold checkReferences at h
    cases hdangling : danglingTarget? ids s with
    | some target =>
      rw [hdangling] at h
      cases h
      have hmissing : target ∉ ids := by simpa using List.find?_some hdangling
      exact ⟨s, List.mem_cons_self, target, List.mem_of_find?_eq_some hdangling, hmissing, rfl⟩
    | none =>
      rw [hdangling] at h
      obtain ⟨s', hs', hfault⟩ := ih h
      exact ⟨s', List.mem_cons_of_mem _ hs', hfault⟩

/-- A workflow is refused because it has no steps, or by the first check that fails. -/
theorem validate_eq_error (h : w.validate = .error e) :
    (e = .emptyWorkflow ∧ w.steps = []) ∨ checkIds [] w.steps = .error e ∨
      w.checkStarts = .error e ∨ checkReferences w.stepIds w.steps = .error e := by
  have hcheck : ∀ {x y : Except ValidationError Unit}, (x >>= fun _ => y) = .error e →
      x = .error e ∨ y = .error e := by
    intro x y hxy
    cases x with
    | ok a => exact .inr hxy
    | error cause => exact .inl hxy
  by_cases hempty : w.steps = []
  · unfold validate at h
    rw [hempty] at h
    cases h
    exact .inl ⟨rfl, hempty⟩
  · have hchecks : w.validate = (checkIds [] w.steps >>= fun _ => w.checkStarts >>= fun _ =>
        checkReferences w.stepIds w.steps) := by
      unfold validate
      rw [if_neg (mt List.isEmpty_iff.mp hempty)]
    exact .inr ((hcheck (hchecks.symm.trans h)).imp_right hcheck)

/-- What a validation says of a workflow that it refuses is true. -/
theorem trueOf_of_validate (h : w.validate = .error e) : e.TrueOf w := by
  rcases validate_eq_error h with ⟨rfl, hempty⟩ | hids | hstarts | hreferences
  · exact hempty
  · rcases checkIds_eq_error hids with ⟨rfl, s, hs, hblank⟩ | ⟨id, rfl, hcount⟩
    · exact ⟨s, hs, List.all_eq_true.mp hblank⟩
    · rw [List.nil_append, List.count, List.countP_map] at hcount
      exact hcount
  · rcases checkStarts_eq_error hstarts with ⟨rfl, hnone⟩ | ⟨rfl, hmany⟩
    · rw [starts_eq_filter, List.filter_eq_nil_iff] at hnone
      simpa [ValidationError.TrueOf] using hnone
    · exact ⟨congrArg (List.map (·.id)) (starts_eq_filter w), by rwa [List.length_map]⟩
  · obtain ⟨s, hs, target, htarget, hmissing, rfl⟩ := checkReferences_eq_error hreferences
    obtain ⟨hne, hslot⟩ := mem_targets_iff.mp htarget
    refine ⟨s, hs, rfl, hne, hslot, fun s' hs' heq => hmissing ?_⟩
    exact List.mem_map.mpr ⟨s', hs', heq⟩

/-- A validation accepts just the workflows that are graphs with one entry, and tells the truth
    about all others. -/
theorem validate_decides (w : Workflow) :
    (w.validate = .ok () ↔ w.IsGraph) ∧
      ∀ e, w.validate = .error e → e.TrueOf w :=
  ⟨validate_eq_ok_iff.trans isGraph_iff.symm, fun _ h => trueOf_of_validate h⟩

/-- A step that is no branch, and leads to a step that is missing if its condition is true. -/
def strayTap : Step :=
  { Step.new "tap" (.tap none none) with connections := ⟨some "tap", none, some "end", some ""⟩ }

/-- Connections count on every step; an empty one leads nowhere. -/
theorem validate_decides_stray :
    let w := ofSteps "w" [(Step.new "start" .start).andThen "tap", strayTap]
    w.validate = .error (.invalidReference "tap" "end") ∧
      (ValidationError.invalidReference "tap" "end").TrueOf w ∧ ¬ w.IsGraph := by
  intro w
  have hrefused : w.validate = .error (.invalidReference "tap" "end") := by decide +kernel
  obtain ⟨haccepts, hrefuses⟩ := validate_decides w
  refine ⟨hrefused, hrefuses _ hrefused, fun hgraph => ?_⟩
  rw [haccepts.mpr hgraph] at hrefused
  cases hrefused

end Workflow

end DeviceFlow
