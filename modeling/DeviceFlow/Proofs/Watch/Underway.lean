import DeviceFlow.Watch.Timeline
import Mathlib.Data.List.Basic

/-!
# Iterations under way

A timeline forgets on which device an iteration has started. Here its list of open starts is
taken from a list of iterations that knows it, so that an end can be told to belong to the latest
iteration of its step on any device, or to the latest one on its own device.
-/

namespace DeviceFlow

/-- The device that an event is about. -/
def Event.device : Event → String
  | .runStarted device _ _ _ | .runCompleted device _ _ _ _ | .runFailed device _ _ _ _ => device
  | .stepStarted i | .stepEnded i _ _ _ => i.device

/-- Two iterations are of one step of one workflow. -/
def Iteration.sameStep (i j : Iteration) : Bool :=
  j.workflowId = i.workflowId ∧ j.stepId = i.stepId

/-- Two iterations are of one step on one device. -/
def Iteration.sameSlot (i j : Iteration) : Bool := i.sameStep j && j.device = i.device

/-- Whenever an iteration ends, the latest one of its step that is under way is on its device,
    given the iterations that are under way, with the latest first. -/
def Untangled (underway : List Iteration) : List Event → Prop
  | [] => True
  | .stepStarted i :: rest => Untangled (i :: underway) rest
  | .stepEnded i _ _ _ :: rest =>
    (∀ j ∈ underway.find? i.sameStep, j.device = i.device) ∧
      Untangled (underway.eraseP i.sameSlot) rest
  | _ :: rest => Untangled underway rest

instance decidableUntangled (underway : List Iteration) :
    (es : List Event) → Decidable (Untangled underway es)
  | [] => .isTrue trivial
  | .stepStarted i :: rest => decidableUntangled (i :: underway) rest
  | .stepEnded i _ _ _ :: rest =>
    let _ := decidableUntangled (underway.eraseP i.sameSlot) rest
    inferInstanceAs (Decidable ((∀ j ∈ underway.find? i.sameStep, j.device = i.device) ∧ _))
  | .runStarted .. :: rest | .runCompleted .. :: rest | .runFailed .. :: rest =>
    decidableUntangled underway rest

namespace Timeline

/-- An iteration that is under way, and the time at which it has started. -/
structure Begun where
  iteration : Iteration
  startMs : Nat

namespace Begun

variable {i : Iteration}

/-- What a timeline keeps of it. -/
def opened (b : Begun) : OpenStart := ⟨b.iteration.workflowId, b.iteration.stepId, b.startMs⟩

/-- The span that it comes to. -/
def span (b : Begun) (endMs : Nat) (success : Bool) : Span :=
  ⟨b.iteration.workflowId, b.iteration.stepId, b.startMs, endMs, success⟩

/-- It is an iteration of the same step. -/
def sameStep (i : Iteration) (b : Begun) : Bool := i.sameStep b.iteration

/-- It is an iteration of the same step on the same device. -/
def sameSlot (i : Iteration) (b : Begun) : Bool := i.sameSlot b.iteration

/-- It is on a device. -/
def on (d : String) (b : Begun) : Bool := b.iteration.device = d

theorem sameStep_iff {b : Begun} :
    b.sameStep i ↔ b.iteration.workflowId = i.workflowId ∧ b.iteration.stepId = i.stepId := by
  simp [sameStep, Iteration.sameStep]

end Begun

variable {start : Nat} {begun : List Begun} {heard : List (Nat × Event)} {i : Iteration}

/-- A timeline that has heard some events is a new one that hears them one after the other. -/
theorem ofEvents_eq_foldl_hear (start : Nat) (heard : List (Nat × Event)) :
    ofEvents start heard = heard.foldl (fun t x => t.hear x.1 x.2) (new start) := by
  have hmore : ∀ (t : Timeline), heard.foldl (fun t x => t.hear x.1 x.2) t =
      ⟨t.startMs, t.marks ++ heard.filterMap fun x => x.2.mark? x.1,
        t.events ++ heard.map Prod.snd⟩ := by
    induction heard with
    | nil => simp
    | cons x heard ih =>
      intro t
      rw [List.foldl_cons, ih]
      cases hmark : x.2.mark? x.1 with
      | none => simp [hear, hmark]
      | some m => simp [hear, hmark]
  exact (hmore (new start)).symm

/-- The latest start of a step is that of the latest iteration of it. -/
theorem takeStart?_opened (i : Iteration) (begun : List Begun) :
    takeStart? i.workflowId i.stepId (begun.map Begun.opened) =
      (begun.find? (Begun.sameStep i)).map fun b =>
        (b.startMs, (begun.eraseP (Begun.sameStep i)).map Begun.opened) := by
  induction begun with
  | nil => rfl
  | cons b begun ih =>
    rw [List.map_cons, takeStart?]
    by_cases hsame : b.sameStep i = true
    · have hids : b.opened.workflowId = i.workflowId ∧ b.opened.stepId = i.stepId :=
        Begun.sameStep_iff.mp hsame
      rw [if_pos hids, List.find?_cons_of_pos hsame, List.eraseP_cons_of_pos hsame]
      rfl
    · have hids : ¬ (b.opened.workflowId = i.workflowId ∧ b.opened.stepId = i.stepId) :=
        fun h => hsame (Begun.sameStep_iff.mpr h)
      rw [if_neg hids, ih, List.find?_cons_of_neg hsame, List.eraseP_cons_of_neg hsame]
      cases begun.find? (Begun.sameStep i) with
      | none => rfl
      | some c => rfl

/-- The spans that some events lead to when some iterations are under way, in the order of their
    ends. -/
def spansFrom (start : Nat) (begun : List Begun) (heard : List (Nat × Event)) : List Span :=
  spansByEnd start (begun.map Begun.opened) (heard.filterMap fun h => h.2.mark? h.1)

@[simp] theorem spansFrom_nil : spansFrom start begun [] = [] := rfl

theorem spansFrom_started (timeMs : Nat) :
    spansFrom start begun ((timeMs, .stepStarted i) :: heard) =
      spansFrom start (⟨i, timeMs - start⟩ :: begun) heard := rfl

theorem spansFrom_ended (timeMs durationMs : Nat) (success : Bool) (error : Option String) :
    spansFrom start begun ((timeMs, .stepEnded i success durationMs error) :: heard) =
      ((begun.find? (Begun.sameStep i)).map (·.span (timeMs - start) success)).toList ++
        spansFrom start (begun.eraseP (Begun.sameStep i)) heard := by
  have hmark : (Event.stepEnded i success durationMs error).mark? timeMs =
      some ⟨i.workflowId, i.stepId, if success then .completed else .failed, timeMs⟩ := rfl
  have hkind : (if success then MarkKind.completed else .failed) ≠ .started := by
    cases success <;> decide
  unfold spansFrom
  simp only [List.filterMap_cons, hmark, spansByEnd, if_neg hkind, takeStart?_opened]
  cases hfound : begun.find? (Begun.sameStep i) with
  | none =>
    rw [List.eraseP_of_forall_not (List.find?_eq_none.mp hfound)]
    rfl
  | some b =>
    have hids := Begun.sameStep_iff.mp (List.find?_some hfound)
    cases success with
    | true => simp [Begun.span, hids]
    | false => simp [Begun.span, hids]

/-- An event that is neither a start nor an end of an iteration leads to no span. -/
theorem spansFrom_other {timeMs : Nat} {e : Event} (he : e.mark? timeMs = none) :
    spansFrom start begun ((timeMs, e) :: heard) = spansFrom start begun heard := by
  unfold spansFrom
  simp only [List.filterMap_cons, he]

/-- The spans of a timeline are those of all the events that it has heard. -/
theorem spans_perm_spansFrom (start : Nat) (heard : List (Nat × Event)) :
    (ofEvents start heard).spans.Perm (spansFrom start [] heard) :=
  List.mergeSort_perm _ _

/-- Every span ends at the time of an event. -/
theorem endMs_of_mem_spansFrom {s : Span} (h : s ∈ spansFrom start begun heard) :
    ∃ x ∈ heard, s.endMs = x.1 - start := by
  induction heard generalizing begun with
  | nil => cases h
  | cons x heard ih =>
    obtain ⟨timeMs, e⟩ := x
    have hrest : ∀ {begun}, s ∈ spansFrom start begun heard →
        ∃ x ∈ (timeMs, e) :: heard, s.endMs = x.1 - start := by
      intro begun hs
      obtain ⟨x, hx, hend⟩ := ih hs
      exact ⟨x, List.mem_cons_of_mem _ hx, hend⟩
    cases e with
    | stepStarted i =>
      rw [spansFrom_started] at h
      exact hrest h
    | stepEnded i success durationMs error =>
      rw [spansFrom_ended] at h
      rcases List.mem_append.mp h with hspan | hlater
      · obtain ⟨b, _, rfl⟩ := Option.map_eq_some_iff.mp (Option.mem_toList.mp hspan)
        exact ⟨_, List.mem_cons_self .., rfl⟩
      · exact hrest hlater
    | runStarted | runCompleted | runFailed =>
      rw [spansFrom_other rfl] at h
      exact hrest h

end Timeline

end DeviceFlow
