import DeviceFlow.Proofs.Events.Run

/-!
# The steps of a run belong to its workflows

A run gets its steps from the workflow it begins with and from those that the store gives out.
So whatever is known of these workflows is known at every piece that the run reaches, and a walk
only goes on with ids that some step of its workflow is connected to.
-/

namespace DeviceFlow

namespace Connections

variable {c : Connections} {id : String}

/-- A target is where one of the connections leads. -/
theorem mem_targets_iff : id ∈ c.targets ↔
    wired c.onSuccess = some id ∨ wired c.onError = some id ∨ wired c.onTrue = some id ∨
      wired c.onFalse = some id := by
  simp [targets, List.mem_filterMap]

end Connections

namespace Step

variable {s : Step} {id : String}

/-- The step after an outcome is the target of a connection. -/
theorem mem_targets_of_next {outcome : StepOutcome} (h : s.next outcome = some id) :
    id ∈ s.connections.targets := by
  rw [Connections.mem_targets_iff]
  unfold next at h
  dsimp only at h
  split at h
  · split at h
    · exact .inr (.inr (.inl h))
    · exact .inr (.inr (.inr h))
  · split at h
    · exact .inl h
    · split at h
      · rename_i target htarget
        rw [htarget]
        exact .inr (.inl h)
      · split at h
        · exact .inl h
        · cases h

end Step

namespace Workflow

variable {w : Workflow} {id : String} {s : Step}

/-- The step that a run reaches by an id is one of the workflow, and has this id. -/
theorem mem_of_target? (h : w.target? id = some s) : s ∈ w.steps ∧ s.id = id := by
  unfold target? at h
  refine ⟨List.mem_reverse.mp (List.mem_of_find?_eq_some h), ?_⟩
  simpa using List.find?_some h

/-- No step is reached by an id just when no step has it. -/
theorem target?_eq_none_iff : w.target? id = none ↔ ∀ s ∈ w.steps, s.id ≠ id := by
  simp [target?]

theorem mem_of_starts {start : Step} (h : w.starts = [start]) :
    start ∈ w.steps ∧ start.kind.isStart = true := by
  have hmem : start ∈ w.starts := h ▸ List.mem_singleton_self start
  exact List.mem_filter.mp hmem

/-- Some step of the workflow is connected to an id. -/
def Leads (w : Workflow) (id : String) : Prop := ∃ s ∈ w.steps, id ∈ s.connections.targets

/-- A walk begins with an id that the workflow leads to. -/
theorem leads_of_starts {start : Step} (h : w.starts = [start])
    (hid : wired start.connections.onSuccess = some id) : w.Leads id :=
  ⟨start, (mem_of_starts h).1, Connections.mem_targets_iff.mpr (.inl hid)⟩

/-- A walk goes on with an id that the workflow leads to. -/
theorem leads_of_next {reached : String} {outcome : StepOutcome}
    (h : w.target? reached = some s) (hid : s.next outcome = some id) : w.Leads id :=
  ⟨s, (mem_of_target? h).1, Step.mem_targets_of_next hid⟩

end Workflow

namespace Piece

/-- A piece belongs to a workflow with a property: its step is one of the workflow, and the id it
    goes on with is one that the workflow leads to. A call only brings its workflow later. -/
def BelongsTo (P : Workflow → Prop) : Piece → Prop
  | .run w _ | .walk _ w _ => P w
  | .onward _ w _ id _ => P w ∧ ∀ target, id = some target → w.Leads target
  | .repetition _ w s _ _ _ | .iteration _ w s _ _ => P w ∧ s ∈ w.steps
  | .attempt _ s _ => ∃ w, P w ∧ s ∈ w.steps
  | .call .. => True

end Piece

/-- The workflow that the store gives out in an exchange. -/
def Exchange.loaded? (x : Exchange) : Option Workflow :=
  match x with
  | ⟨.load _, .ok found⟩ => found
  | _ => none

/-- What the store has given out along a trace can be listed. -/
theorem Loaded.mem_filterMap {t : List Exchange} {child : Workflow} (h : Loaded t child) :
    child ∈ t.filterMap Exchange.loaded? := by
  obtain ⟨id, hid⟩ := h
  exact List.mem_filterMap.mpr ⟨_, hid, rfl⟩

variable {run : Session} {P : Workflow → Prop} {x y : Piece} {t : List Exchange}

/-- What is known of all that the store gives out along a trace is known along every part. -/
theorem Loaded.forall_of_subset {u : List Exchange} (h : ∀ child, Loaded u child → P child)
    (htu : t ⊆ u) : ∀ child, Loaded t child → P child :=
  fun child hchild => h child (hchild.mono htu)

/-- A piece belongs to a workflow with a property if the piece around it does, and the store
    gives out such workflows only. -/
theorem Begins.belongsTo (h : Begins run x t y) (hx : x.BelongsTo P)
    (hloaded : ∀ child, Loaded t child → P child) : y.BelongsTo P := by
  cases h with
  | run w vars startedAt startedMs => exact hx
  | walk hstart => exact ⟨hx, fun target hid => Workflow.leads_of_starts hstart hid⟩
  | onward hroom htarget => exact ⟨hx.1, (Workflow.mem_of_target? htarget).1⟩
  | next hroom htarget hends hend =>
    exact ⟨hx.1, fun target hid => Workflow.leads_of_next htarget hid⟩
  | repetition => exact hx
  | again hends hleft hbreak => exact hx
  | iteration levels w s number p startedAt => exact ⟨w, hx⟩
  | attempt hkind hid => trivial
  | @call levels depth id child p hstore hdepth => exact hloaded child ⟨id, by simp⟩

/-- Whatever is known of the workflow of a run and of those that the store gives out is known at
    every piece that the run reaches. -/
theorem Reaches.belongsTo (h : Reaches run x t y) (hx : x.BelongsTo P)
    (hloaded : ∀ child, Loaded t child → P child) : y.BelongsTo P := by
  induction h with
  | refl x => exact hx
  | @head x y z t u h _ ih =>
    have hy := h.belongsTo hx (Loaded.forall_of_subset hloaded (List.subset_append_left t u))
    exact ih hy (Loaded.forall_of_subset hloaded (List.subset_append_right t u))

end DeviceFlow
