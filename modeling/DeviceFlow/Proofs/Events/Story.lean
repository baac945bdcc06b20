import DeviceFlow.Proofs.Nesting.Course
import DeviceFlow.Proofs.Trace.Events

/-!
# Stories

A grammar for the events between the start and the end of a run. A walk is told as the dispatches
of its steps, a dispatch as iterations that are numbered from one, and an iteration as two events
around what is told inside of it; only inside of a step that calls a workflow is anything told,
which is the walk through the called workflow. A level of calls is a level of brackets, and there
are no more of them than the story may nest.
-/

namespace DeviceFlow

/-- A part of a story. Below it, calls may be nested for some more levels. -/
inductive Part where
  | walk (levels : Nat) (w : Workflow)
  /-- The iterations of a dispatched step, from the one with a number on. -/
  | dispatch (levels : Nat) (w : Workflow) (s : Step) (number : Nat)
  /-- What happens inside of an iteration of a step. -/
  | inside (levels : Nat) (s : Step)

/-- Some events tell a part of a run that can call some workflows. -/
inductive Story (run : Session) (callable : Workflow → Prop) : Part → List Event → Prop where
  | arrival {levels : Nat} {w : Workflow} : Story run callable (.walk levels w) []
  | dispatch {levels : Nat} {w : Workflow} {s : Step} {es rest : List Event} (hs : s ∈ w.steps)
      (h : Story run callable (.dispatch levels w s 1) es)
      (hrest : Story run callable (.walk levels w) rest) :
      Story run callable (.walk levels w) (es ++ rest)
  | finished {levels : Nat} {w : Workflow} {s : Step} {number : Nat} :
      Story run callable (.dispatch levels w s number) []
  | iteration {levels : Nat} {w : Workflow} {s : Step} {number durationMs : Nat}
      {success : Bool} {error : Option String} {inner rest : List Event}
      (hnumber : number ≤ s.iterations) (h : Story run callable (.inside levels s) inner)
      (hrest : Story run callable (.dispatch levels w s (number + 1)) rest) :
      Story run callable (.dispatch levels w s number)
        (.stepStarted (run.iteration w s number) :: inner ++
          .stepEnded (run.iteration w s number) success durationMs error :: rest)
  | quiet {levels : Nat} {s : Step} : Story run callable (.inside levels s) []
  | call {levels : Nat} {s : Step} {id : Option String} {child : Workflow} {es : List Event}
      (hkind : s.kind = .subWorkflow id) (hchild : callable child)
      (h : Story run callable (.walk levels child) es) :
      Story run callable (.inside (levels + 1) s) es

/-- The greatest number of brackets that are open at once, when some are open already. -/
def deepest (opened : Nat) : List Event → Nat
  | [] => opened
  | .stepStarted _ :: rest => max opened (deepest (opened + 1) rest)
  | .stepEnded .. :: rest => max opened (deepest (opened - 1) rest)
  | _ :: rest => deepest opened rest

/-- How many brackets a part of a story can have inside of each other. -/
def Part.height : Part → Nat
  | .walk levels _ | .dispatch levels _ _ _ => levels + 1
  | .inside levels _ => levels

variable {run : Session} {callable : Workflow → Prop}

/-- A part of a story opens no more brackets than its height, and leaves none of them open. -/
theorem Story.deepest_append_le {part : Part} {es : List Event} (h : Story run callable part es)
    (opened : Nat) (rest : List Event) :
    deepest opened (es ++ rest) ≤ max (opened + part.height) (deepest opened rest) := by
  induction h generalizing opened rest with
  | arrival | finished | quiet => exact Nat.le_max_right ..
  | dispatch _ _ _ ih ihrest =>
    rw [List.append_assoc]
    refine Nat.le_trans (ih opened _) (Nat.max_le.mpr ⟨Nat.le_max_left .., ?_⟩)
    exact ihrest opened rest
  | @iteration levels w s number ms ok error inner after _ _ _ ih ihrest =>
    have hinner := ih (opened + 1)
      (.stepEnded (run.iteration w s number) ok ms error :: (after ++ rest))
    have hafter := ihrest opened rest
    simp only [List.append_assoc, List.cons_append, deepest, Nat.add_sub_cancel,
      Part.height] at hinner hafter ⊢
    omega
  | call _ _ _ ih => exact ih opened rest

/-- No more brackets are ever open in a story than calls may be nested, and one more. -/
theorem Story.deepest_le {levels : Nat} {w : Workflow} {es : List Event}
    (h : Story run callable (.walk levels w) es) : deepest 0 es ≤ levels + 1 := by
  have hle := h.deepest_append_le 0 []
  rw [List.append_nil] at hle
  simpa [deepest, Part.height] using hle

end DeviceFlow
