import DeviceFlow.Proofs.Files.Follow
import DeviceFlow.Proofs.Wiring.Member
import DeviceFlow.Workflow.Validation

/-!
# What a validation finds out

Each check of a validation decides a property of the steps, and all of them together decide
whether the workflow is well-formed. In a well-formed workflow every id that the workflow leads to
is the id of a step.
-/

namespace DeviceFlow

namespace Workflow

/-- Two checks succeed one after the other if each of them does. -/
theorem check_bind_eq_ok_iff {ε β : Type} {x : Except ε Unit} {y : Except ε β} {b : β} :
    (x >>= fun _ => y) = .ok b ↔ x = .ok () ∧ y = .ok b := by
  rw [bind_eq_ok_iff]
  constructor
  · rintro ⟨⟨⟩, hx, hy⟩
    exact ⟨hx, hy⟩
  · rintro ⟨hx, hy⟩
    exact ⟨(), hx, hy⟩

/-- The ids are proper names, differ from each other, and have not been seen before. -/
theorem checkIds_eq_ok_iff {seen : List String} {steps : List Step} :
    checkIds seen steps = .ok () ↔
      (∀ s ∈ steps, Text.isBlankText s.id = false ∧ s.id ∉ seen) ∧ (steps.map (·.id)).Nodup := by
  induction steps generalizing seen with
  | nil => simp [checkIds]
  | cons s rest ih =>
    unfold checkIds
    by_cases hblank : Text.isBlankText s.id = true
    · simp [hblank]
    · by_cases hseen : s.id ∈ seen
      · simp [hblank, hseen]
      · simp only [hblank, List.contains_eq_mem, hseen, decide_false, Bool.false_eq_true, if_false]
        rw [ih]
        simp only [List.map_cons, List.nodup_cons, List.mem_map, List.mem_cons]
        grind

theorem checkStarts_eq_ok_iff {w : Workflow} :
    w.checkStarts = .ok () ↔ w.starts.length = 1 := by
  unfold checkStarts
  split
  · rename_i hstarts
    simp [hstarts]
  · rename_i hstarts
    simp [hstarts]
  · rename_i hnone hone
    match hstarts : w.starts with
    | [] => exact absurd hstarts hnone
    | [start] => exact absurd hstarts (hone start)
    | _ :: _ :: _ => simp

/-- A step has no dangling connection just when all its targets are among the ids. -/
theorem danglingTarget?_eq_none_iff {ids : List String} {s : Step} :
    danglingTarget? ids s = none ↔ ∀ target ∈ s.connections.targets, target ∈ ids := by
  simp [danglingTarget?]

theorem checkReferences_eq_ok_iff {ids : List String} {steps : List Step} :
    checkReferences ids steps = .ok () ↔
      ∀ s ∈ steps, ∀ target ∈ s.connections.targets, target ∈ ids := by
  induction steps with
  | nil => simp [checkReferences]
  | cons s rest ih =>
    unfold checkReferences
    rw [List.forall_mem_cons, ← danglingTarget?_eq_none_iff]
    cases hdangling : danglingTarget? ids s with
    | some target => simp
    | none => simp [ih]

/-- A validation decides whether a workflow is well-formed. -/
theorem validate_eq_ok_iff {w : Workflow} : w.validate = .ok () ↔ w.WellFormed := by
  have hchecks : w.validate = .ok () ↔
      w.steps ≠ [] ∧ checkIds [] w.steps = .ok () ∧ w.checkStarts = .ok () ∧
        checkReferences w.stepIds w.steps = .ok () := by
    unfold validate
    cases hsteps : w.steps with
    | nil => simp [throw, throwThe, MonadExceptOf.throw, bind, Except.bind]
    | cons s rest => simp [check_bind_eq_ok_iff]
  rw [hchecks, checkIds_eq_ok_iff, checkStarts_eq_ok_iff, checkReferences_eq_ok_iff]
  constructor
  · rintro ⟨hsteps, ⟨hnamed, hdistinct⟩, hstarts, hclosed⟩
    exact ⟨hsteps, fun s hs => (hnamed s hs).1, hdistinct, hstarts, hclosed⟩
  · rintro ⟨hsteps, hnamed, hdistinct, hstarts, hclosed⟩
    exact ⟨hsteps, ⟨fun s hs => ⟨hnamed s hs, List.not_mem_nil⟩, hdistinct⟩, hstarts, hclosed⟩

instance (w : Workflow) : Decidable w.WellFormed :=
  decidable_of_iff
    (w.steps ≠ [] ∧ (∀ s ∈ w.steps, Text.isBlankText s.id = false) ∧ w.stepIds.Nodup ∧
      w.starts.length = 1 ∧ ∀ s ∈ w.steps, ∀ target ∈ s.connections.targets, target ∈ w.stepIds)
    ⟨fun h => ⟨h.1, h.2.1, h.2.2.1, h.2.2.2.1, h.2.2.2.2⟩,
      fun h => ⟨h.nonempty, h.named, h.distinct, h.oneStart, h.closed⟩⟩

/-- In a well-formed workflow every id that the workflow leads to is the id of a step. -/
theorem WellFormed.exists_target? {w : Workflow} {id : String} (hw : w.WellFormed)
    (h : w.Leads id) : ∃ s, w.target? id = some s := by
  obtain ⟨s, hs, htarget⟩ := h
  have hid : id ∈ w.stepIds := hw.closed s hs id htarget
  obtain ⟨target, hmem, rfl⟩ := List.mem_map.mp hid
  cases hfound : w.target? target.id with
  | some found => exact ⟨found, rfl⟩
  | none => exact absurd rfl (target?_eq_none_iff.mp hfound target hmem)

end Workflow

end DeviceFlow
