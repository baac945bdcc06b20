import DeviceFlow.Proofs.Nesting.Course

/-!
# The edges of a workflow

What an iteration of a step comes to is one of three things to the wiring: a condition has been
evaluated, the step has succeeded, or it has failed. Each of them selects an edge of the graph. An
outcome says more than that, and some of its values no step comes to: only a branch step leaves the
value of a condition, and no other step is without success unless it has failed.
-/

namespace DeviceFlow

/-- What an outcome is to the wiring of a step. -/
inductive Verdict where
  /-- A condition has been evaluated. -/
  | held (value : Bool)
  | succeeded
  | failed (cause : StepError)

/-- What the wiring is told of an outcome. -/
def StepOutcome.verdict (o : StepOutcome) : Verdict :=
  match o.error with
  | some cause => .failed cause
  | none => if o.isCondition then .held o.success else .succeeded

/-- Where the wiring of a step leads. -/
def Step.edge (s : Step) : Verdict → Option String
  | .held true => wired s.connections.onTrue
  | .held false => wired s.connections.onFalse
  | .succeeded => wired s.connections.onSuccess
  | .failed _ =>
    match wired s.connections.onError, s.onError with
    | some handler, _ => some handler
    | none, .proceed => wired s.connections.onSuccess
    | none, .stop => none

/-- An outcome without an error is the value of a condition just if the step is a branch, and
    otherwise a success. -/
def StepOutcome.Suits (o : StepOutcome) (kind : StepKind) : Prop :=
  o.error = none ∧ o.isCondition = kind.isBranch ∧ (kind.isBranch = false → o.success = true)

namespace Attempt

variable {α β : Type} {P : α → Prop}

/-- An attempt that leaves something only as expected, whatever it asks for and fails with. -/
abbrev Leaves (P : α → Prop) (x : Attempt α) : Prop :=
  x.Keeps (fun _ => True) P (fun _ => True)

theorem leaves_throw {e : StepError} : Leaves P (throw e : Attempt α) := trivial

theorem leaves_any (x : Attempt α) : x.Leaves fun _ => True := by
  have hplan : ∀ p : Plan (Except StepError α),
      p.Keeps (fun _ => True) (Comes (fun _ => True) fun _ => True) := by
    intro p
    induction p with
    | done r =>
      cases r with
      | ok a => trivial
      | error e => trivial
    | ask q next ih => exact ⟨trivial, ih⟩
  exact hplan x.run

/-- What a sequence of attempts leaves is up to the last one. -/
theorem Leaves.after {x : Attempt α} {f : α → Attempt β} {R : β → Prop}
    (h : ∀ a, (f a).Leaves R) : (x >>= f).Leaves R :=
  keeps_bind.mpr ((leaves_any x).mono fun a _ => h a)

end Attempt

open Attempt

theorem StepOutcome.ok_suits {kind : StepKind} (hkind : kind.isBranch = false) :
    StepOutcome.ok.Suits kind :=
  ⟨rfl, hkind.symm, fun _ => rfl⟩

/-- Only a branch step leaves the value of a condition, and every other step a success. -/
theorem Step.leaves_perform (rig : Rig) (s : Step) (vars : Variables) :
    (s.perform rig vars).Leaves fun effect => effect.1.Suits s.kind := by
  unfold Step.perform
  cases s.kind with
  | start => exact StepOutcome.ok_suits rfl
  | tap x y =>
    dsimp only [performTap]
    split
    · exact .after fun _ => StepOutcome.ok_suits rfl
    · exact leaves_throw
  | swipe x1 y1 x2 y2 durationMs =>
    dsimp only [performSwipe]
    split
    · exact .after fun _ => StepOutcome.ok_suits rfl
    · exact leaves_throw
  | element action selector text direction =>
    dsimp only [performElement]
    split
    · exact .after fun _ => .after fun _ => .after fun _ => StepOutcome.ok_suits rfl
    · exact leaves_throw
  | app action package =>
    dsimp only [performApp]
    split
    · exact .after fun _ => StepOutcome.ok_suits rfl
    · exact leaves_throw
  | branch condition selector variableName expectedValue =>
    refine .after fun value => keeps_pure.mpr ?_
    exact ⟨rfl, rfl, nofun⟩
  | wait durationMs => exact .after fun _ => .after fun _ => StepOutcome.ok_suits rfl
  | script name => exact .after fun _ => .after fun _ => .after fun _ => StepOutcome.ok_suits rfl
  | setVariable name value =>
    exact .after fun _ => .after fun _ => .after fun _ => StepOutcome.ok_suits rfl
  | readToVariable name selector what =>
    dsimp only [performRead]
    split
    · refine .after fun _ => .after fun deadline => .after fun element => ?_
      exact .after fun _ => StepOutcome.ok_suits rfl
    · exact leaves_throw
  | shell command saveTo =>
    refine .after fun _ => .after fun output => keeps_pure.mpr ?_
    exact ⟨rfl, rfl, fun _ => rfl⟩
  | keyEvent keyCode => exact .after fun _ => .after fun _ => StepOutcome.ok_suits rfl
  | subWorkflow id => exact .after fun _ => leaves_throw
  | unsupported => exact .after fun _ => leaves_throw

variable {run : Session} {levels : Nat} {s : Step} {p : Progress} {t : List Exchange}

/-- An execution of a step leaves what suits its kind, or fails. -/
theorem Course.suits {r : Progress × StepOutcome} (h : Course run (.attempt levels s p) t r) :
    r.2.Suits s.kind ∨ ∃ e, r.2 = .failed e := by
  cases h with
  | nameless hkind hid => exact .inr ⟨_, rfl⟩
  | returned hkind hid h =>
    left
    rw [hkind]
    exact StepOutcome.ok_suits rfl
  | thrown hkind hid h => exact .inr ⟨_, rfl⟩
  | performed hkind h => exact .inl (Plan.Keeps.follows (Step.leaves_perform ..) h).2
  | unperformed hkind h => exact .inr ⟨_, rfl⟩

/-- After an outcome that a step can come to, a run goes on along the edge of the graph. -/
theorem Step.next_eq_edge {o : StepOutcome} (h : o.Suits s.kind ∨ ∃ e, o = .failed e) :
    s.next o = s.edge o.verdict := by
  rcases h with ⟨herror, hcondition, hsuccess⟩ | ⟨e, rfl⟩
  · unfold next StepOutcome.verdict
    dsimp only
    rw [herror, hcondition]
    cases hbranch : s.kind.isBranch with
    | true =>
      cases o.success with
      | true => rfl
      | false => rfl
    | false =>
      rw [hsuccess hbranch]
      rfl
  · show _ = match wired s.connections.onError, s.onError with
      | some handler, _ => some handler
      | none, .proceed => wired s.connections.onSuccess
      | none, .stop => none
    simp only [next, StepOutcome.failed, Bool.and_false, Bool.false_eq_true, if_false]
    cases wired s.connections.onError with
    | some handler => rfl
    | none =>
      cases s.onError with
      | stop => rfl
      | proceed => rfl

end DeviceFlow
