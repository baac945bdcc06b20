import DeviceFlow.Proofs.Wiring.WellFormed
import Mathlib.Data.List.Forall2
import Mathlib.Data.List.Nodup

/-!
# Workflows that are edited

A workflow that has been put together step by step has no two steps with one id. Removing a step
takes away the connections that led to it and nothing else, so a well-formed workflow stays so,
unless it loses its start step.
-/

namespace DeviceFlow

/-- What is done to a workflow that is being put together. -/
inductive Edit where
  | add (s : Step)
  | remove (id : String)

namespace Workflow

variable {w w' : Workflow} {id : String}

/-- The workflow with an edit made, if it can be made. -/
def edited? (w : Workflow) : Edit → Except EditError Workflow
  | .add s => w.addStep s
  | .remove id => w.removeStep id

/-- Makes an edit. An edit that cannot be made is reported, and the workflow stays as it is. -/
def edit (w : Workflow) (e : Edit) : Workflow × Except EditError Unit :=
  match w.edited? e with
  | .ok next => (next, .ok ())
  | .error cause => (w, .error cause)

/-- What a series of edits makes of a workflow, those that fail included. -/
def editAll (w : Workflow) (edits : List Edit) : Workflow :=
  edits.foldl (fun w e => (w.edit e).1) w

theorem edit_of_edited? {e : Edit} (h : w.edited? e = .ok w') : w.edit e = (w', .ok ()) := by
  unfold edit
  rw [h]

/-- An edit that is made leads to the edited workflow. -/
theorem edited?_of_edit_ok {e : Edit} (h : (w.edit e).2 = .ok ()) :
    w.edited? e = .ok (w.edit e).1 := by
  unfold edit at h ⊢
  cases hedited : w.edited? e with
  | ok next => rfl
  | error cause =>
    rw [hedited] at h
    cases h

theorem eq_of_edit_error {e : Edit} {cause : EditError} (h : (w.edit e).2 = .error cause) :
    (w.edit e).1 = w := by
  unfold edit at h ⊢
  cases hedited : w.edited? e with
  | ok next =>
    rw [hedited] at h
    cases h
  | error cause => rfl

theorem any_id_iff : w.steps.any (·.id = id) = true ↔ id ∈ w.stepIds := by
  simp [stepIds]

/-- A step can be added if its id is new. -/
theorem addStep_eq_ok_iff {s : Step} : w.addStep s = .ok w' ↔
    s.id ∉ w.stepIds ∧ w' = { w with steps := w.steps ++ [s] } := by
  unfold addStep
  by_cases hany : s.id ∈ w.stepIds
  · rw [if_pos (any_id_iff.mpr hany)]
    simp [hany]
  · rw [if_neg (mt any_id_iff.mp hany)]
    simp [hany, eq_comm]

/-- A step can be removed if there is one with the id. -/
theorem removeStep_eq_ok_iff : w.removeStep id = .ok w' ↔
    id ∈ w.stepIds ∧
      w' = { w with steps := (w.steps.eraseP (·.id = id)).map (disconnect id) } := by
  unfold removeStep
  by_cases hany : id ∈ w.stepIds
  · rw [if_pos (any_id_iff.mpr hany)]
    simp [hany, eq_comm]
  · rw [if_neg (mt any_id_iff.mp hany)]
    simp [hany]

/-- Where the ids are distinct, all steps but the removed one are left. -/
theorem steps_of_removeStep (hdistinct : w.stepIds.Nodup) (h : w.removeStep id = .ok w') :
    w'.steps = (w.steps.filter (·.id ≠ id)).map (disconnect id) := by
  obtain ⟨_, rfl⟩ := removeStep_eq_ok_iff.mp h
  have hfilter : ∀ steps : List Step, (steps.map (·.id)).Nodup →
      steps.eraseP (·.id = id) = steps.filter (·.id ≠ id) := by
    intro steps hnodup
    induction steps with
    | nil => rfl
    | cons s rest ih =>
      obtain ⟨hs, hrest⟩ := List.nodup_cons.mp hnodup
      by_cases hid : s.id = id
      · have hkept : rest.filter (·.id ≠ id) = rest := by
          rw [List.filter_eq_self]
          intro other hother
          rw [decide_eq_true_iff, ← hid]
          intro heq
          exact hs (List.mem_map.mpr ⟨other, hother, heq⟩)
        rw [List.eraseP_cons_of_pos (by simpa using hid),
          List.filter_cons_of_neg (by simpa using hid), hkept]
      · rw [List.eraseP_cons_of_neg (by simpa using hid),
          List.filter_cons_of_pos (by simpa using hid), ih hrest]
  dsimp only
  rw [hfilter w.steps hdistinct]

theorem stepIds_of_removeStep (hdistinct : w.stepIds.Nodup) (h : w.removeStep id = .ok w') :
    w'.stepIds = w.stepIds.filter (· ≠ id) := by
  unfold stepIds
  rw [steps_of_removeStep hdistinct h, List.map_map, List.filter_map]
  rfl

/-- An edit keeps the ids of the steps distinct. -/
theorem nodup_of_edited {e : Edit} (hdistinct : w.stepIds.Nodup) (h : w.edited? e = .ok w') :
    w'.stepIds.Nodup := by
  cases e with
  | add s =>
    obtain ⟨hnew, rfl⟩ := addStep_eq_ok_iff.mp h
    unfold stepIds at hdistinct hnew ⊢
    rw [List.map_append, List.map_singleton, ← List.concat_eq_append]
    exact hdistinct.concat hnew
  | remove id =>
    rw [stepIds_of_removeStep hdistinct h]
    exact hdistinct.filter _

theorem nodup_of_edit (e : Edit) (hdistinct : w.stepIds.Nodup) : (w.edit e).1.stepIds.Nodup := by
  unfold edit
  split
  · rename_i hedited
    exact nodup_of_edited hdistinct hedited
  · exact hdistinct

/-- A workflow that has been put together has no two steps with one id. -/
theorem nodup_of_editAll (edits : List Edit) (hdistinct : w.stepIds.Nodup) :
    (w.editAll edits).stepIds.Nodup := by
  induction edits generalizing w with
  | nil => exact hdistinct
  | cons e rest ih => exact ih (nodup_of_edit e hdistinct)

/-! ## What is left by a removal -/

/-- The four connections of a step. -/
def slots : List (Connections → Option String) :=
  [Connections.onSuccess, Connections.onError, Connections.onTrue, Connections.onFalse]

/-- A step as it is left when another one has been removed: it has lost the connections to that
    one, and nothing else. -/
structure Spared (id : String) (s s' : Step) : Prop where
  rest : s' = { s with connections := s'.connections }
  slot : ∀ slot ∈ slots,
    slot s'.connections = if slot s.connections = some id then none else slot s.connections

theorem spared_disconnect (id : String) (s : Step) : Spared id s (disconnect id s) := by
  refine ⟨rfl, ?_⟩
  intro slot hslot
  unfold slots at hslot
  simp only [List.mem_cons, List.not_mem_nil, or_false] at hslot
  rcases hslot with rfl | rfl | rfl | rfl
  all_goals rfl

/-- What a removal leaves of a workflow: no step with the id, no connection that leads to it, and
    all else as it was, in the same order. -/
structure Removed (id : String) (w w' : Workflow) : Prop where
  gone : id ∉ w'.stepIds
  cut : ∀ s ∈ w'.steps, ∀ slot ∈ slots, slot s.connections ≠ some id
  spared : List.Forall₂ (Spared id) (w.steps.filter (·.id ≠ id)) w'.steps
  rest : w' = { w with steps := w'.steps }

theorem removed_of_removeStep (hdistinct : w.stepIds.Nodup) (h : w.removeStep id = .ok w') :
    Removed id w w' := by
  have hsteps := steps_of_removeStep hdistinct h
  refine ⟨?_, ?_, ?_, ?_⟩
  · rw [stepIds_of_removeStep hdistinct h]
    simp
  · rw [hsteps]
    intro s hs slot hslot
    obtain ⟨before, _, rfl⟩ := List.mem_map.mp hs
    rw [(spared_disconnect id before).slot slot hslot]
    split
    · exact nofun
    · assumption
  · rw [hsteps, List.forall₂_map_right_iff]
    exact List.forall₂_same.mpr fun s _ => spared_disconnect id s
  · obtain ⟨_, rfl⟩ := removeStep_eq_ok_iff.mp h
    rfl

/-! ## Removals from well-formed workflows -/

theorem mem_targets_iff {c : Connections} {target : String} :
    target ∈ c.targets ↔ target ≠ "" ∧ ∃ slot ∈ slots, slot c = some target := by
  have hwired : ∀ connection, wired connection = some target ↔
      target ≠ "" ∧ connection = some target := by
    intro connection
    unfold wired
    rw [Option.filter_eq_some_iff]
    simp [and_comm]
  unfold Connections.targets slots
  simp only [List.mem_filterMap, List.mem_cons, List.not_mem_nil, or_false, hwired,
    exists_eq_or_imp, exists_eq_left, and_or_left]

/-- A connection that is left was there before, and does not lead to the removed step. -/
theorem mem_targets_disconnect {s : Step} {target : String}
    (h : target ∈ (disconnect id s).connections.targets) :
    target ∈ s.connections.targets ∧ target ≠ id := by
  obtain ⟨hne, slot, hslot, htarget⟩ := mem_targets_iff.mp h
  rw [(spared_disconnect id s).slot slot hslot] at htarget
  split at htarget
  · cases htarget
  · rename_i hother
    refine ⟨mem_targets_iff.mpr ⟨hne, slot, hslot, htarget⟩, ?_⟩
    rintro rfl
    exact hother htarget

/-- The start steps are left when another step is removed. -/
theorem starts_of_removeStep (hdistinct : w.stepIds.Nodup) (h : w.removeStep id = .ok w')
    (hother : ∀ s ∈ w.starts, s.id ≠ id) : w'.starts = w.starts.map (disconnect id) := by
  unfold starts at hother ⊢
  rw [steps_of_removeStep hdistinct h, List.filter_map, List.filter_filter]
  congr 1
  refine List.filter_congr fun s hs => ?_
  by_cases hstart : s.kind.isStart = true
  · have hne := hother s (List.mem_filter.mpr ⟨hs, hstart⟩)
    simp [disconnect, hstart, hne]
  · simp [disconnect, hstart]

/-- A well-formed workflow stays so when a step is removed that is no start step. -/
theorem WellFormed.removeStep (hw : w.WellFormed) (h : w.removeStep id = .ok w')
    (hother : ∀ s ∈ w.starts, s.id ≠ id) : w'.WellFormed := by
  have hsteps := steps_of_removeStep hw.distinct h
  have hids := stepIds_of_removeStep hw.distinct h
  have hone : w'.starts.length = 1 := by
    rw [starts_of_removeStep hw.distinct h hother, List.length_map, hw.oneStart]
  refine ⟨?_, ?_, ?_, hone, ?_⟩
  · intro hnil
    unfold starts at hone
    rw [hnil] at hone
    cases hone
  · rw [hsteps]
    intro s hs
    obtain ⟨before, hbefore, rfl⟩ := List.mem_map.mp hs
    exact hw.named before (List.mem_filter.mp hbefore).1
  · rw [hids]
    exact hw.distinct.filter _
  · rw [hsteps, hids]
    intro s hs target htarget
    obtain ⟨before, hbefore, rfl⟩ := List.mem_map.mp hs
    obtain ⟨hbeforeTarget, hne⟩ := mem_targets_disconnect htarget
    have hmem := hw.closed before (List.mem_filter.mp hbefore).1 target hbeforeTarget
    exact List.mem_filter.mpr ⟨hmem, by simpa using hne⟩

/-- A step that is no start step can be removed from a workflow that has been validated, and what
    is left can be validated again. -/
theorem exists_removeStep_of_validate (hw : w.validate = .ok ()) {s : Step} (hs : s ∈ w.steps)
    (hkind : s.kind.isStart = false) :
    ∃ w', w.removeStep s.id = .ok w' ∧ w'.validate = .ok () := by
  have hwell := validate_eq_ok_iff.mp hw
  have hid : s.id ∈ w.stepIds := List.mem_map_of_mem hs
  have hremove := removeStep_eq_ok_iff.mpr ⟨hid, rfl⟩
  refine ⟨_, hremove, validate_eq_ok_iff.mpr (hwell.removeStep hremove ?_)⟩
  intro start hstart heq
  obtain ⟨hmem, hstartKind⟩ := List.mem_filter.mp hstart
  -- Steps with one id are one step, and this one is no start step.
  have hsame := List.inj_on_of_nodup_map hwell.distinct hmem hs heq
  rw [hsame, hkind] at hstartKind
  cases hstartKind

/-- However a workflow has been put together, its steps have distinct ids, what cannot be done
    changes nothing, and a removal takes away a step, the connections to it and nothing else. A
    workflow that has been validated stays valid when any step but its start step is removed. -/
theorem sound_of_editAll (name title : String) (edits : List Edit) :
    let w := (new name title).editAll edits
    w.stepIds.Nodup ∧
    (∀ e cause, (w.edit e).2 = .error cause → (w.edit e).1 = w) ∧
    (∀ id, (w.edit (.remove id)).2 = .ok () → Removed id w (w.edit (.remove id)).1) ∧
    ∀ valid : Workflow, valid.validate = .ok () → ∀ s ∈ valid.steps, s.kind.isStart = false →
      (valid.edit (.remove s.id)).2 = .ok () ∧
        (valid.edit (.remove s.id)).1.validate = .ok () := by
  have hdistinct := nodup_of_editAll edits (w := new name title) List.nodup_nil
  refine ⟨hdistinct, ?_, ?_, ?_⟩
  · intro e cause
    exact eq_of_edit_error
  · intro id hdone
    exact removed_of_removeStep hdistinct (edited?_of_edit_ok hdone)
  · intro valid hvalid s hs hkind
    obtain ⟨left, hremove, hleft⟩ := exists_removeStep_of_validate hvalid hs hkind
    rw [edit_of_edited? (e := .remove s.id) hremove]
    exact ⟨rfl, hleft⟩

/-- A tap that is repeated until it fails. -/
def insistentTap : Step :=
  ((Step.new "tap" (.tap (some 1) (some 1))).andThen "tap").onFailure "wait"

/-- The edits by which a workflow with a loop is put together; the tap is added twice. -/
def loopEdits : List Edit :=
  [.add ((Step.new "start" .start).andThen "tap"), .add insistentTap,
    .add (Step.new "wait" (.wait (some 5))), .add insistentTap]

/-- A tap that leads to itself can be taken out of a valid workflow. -/
theorem sound_of_loopEdits :
    let w := (new "loop" "Loop").editAll loopEdits
    (w.edit (.add insistentTap)).2 = .error (.exists "tap") ∧ (w.edit (.add insistentTap)).1 = w ∧
    (w.edit (.remove "tap")).2 = .ok () ∧ Removed "tap" w (w.edit (.remove "tap")).1 ∧
    w.validate = .ok () ∧ insistentTap ∈ w.steps ∧
      (w.edit (.remove "tap")).1.validate = .ok () := by
  obtain ⟨_, hfails, hremoves, hvalid⟩ := sound_of_editAll "loop" "Loop" loopEdits
  have hagain : (((new "loop" "Loop").editAll loopEdits).edit (.add insistentTap)).2 =
      .error (.exists "tap") := by decide +kernel
  have hwell : ((new "loop" "Loop").editAll loopEdits).validate = .ok () :=
    validate_eq_ok_iff.mpr (by decide +kernel)
  have htap : insistentTap ∈ ((new "loop" "Loop").editAll loopEdits).steps := by decide +kernel
  obtain ⟨hdone, hleft⟩ := hvalid _ hwell insistentTap htap rfl
  exact ⟨hagain, hfails _ _ hagain, hdone, hremoves _ hdone, hwell, htap, hleft⟩

end Workflow

end DeviceFlow
