import DeviceFlow.Proofs.Nesting.Adequate
import DeviceFlow.Proofs.Wiring.Edge
import DeviceFlow.Proofs.Wiring.Member

/-!
# Failures on nested levels

A step that fails inside called workflows fails the steps that call them, one level after the
other. What its error has become on the outermost level is given by the calls alone, and so is the
text of it.
-/

namespace DeviceFlow

/-- A step without any way to go on after a failure. -/
def Step.Strict (s : Step) : Prop :=
  s.onError = .stop ∧ wired s.connections.onError = none

/-- A workflow whose steps are all strict. -/
def Workflow.Strict (w : Workflow) : Prop := ∀ s ∈ w.steps, s.Strict

instance (w : Workflow) : Decidable w.Strict :=
  inferInstanceAs
    (Decidable (∀ s ∈ w.steps, s.onError = .stop ∧ wired s.connections.onError = none))

/-- A call of a workflow: the step that calls, and the workflow that is called. -/
structure CallSite where
  step : String
  workflow : String
  deriving DecidableEq

/-- The text of a failure, as the calling step tells it. -/
def CallSite.wrap (c : CallSite) (text : String) : String :=
  s!"step '{c.step}' failed: sub-workflow '{c.workflow}' failed: {text}"

/-- What the error of a step is to the run. -/
def StepError.toRunError (step : String) : StepError → RunError
  | .cancelled => .cancelled
  | .aborted cause => cause
  | e => .stepFailed step e

namespace RunError

variable {e : RunError}

/-- What the error of a called workflow is to the run, as the calling step fails with it. -/
def past (c : CallSite) (e : RunError) : RunError :=
  (Session.asStepError c.workflow e).toRunError c.step

/-- What an error is to the run after some calls, of which the first one is the outermost. -/
def pastAll (calls : List CallSite) (e : RunError) : RunError := calls.foldr past e

@[simp] theorem pastAll_nil : e.pastAll [] = e := rfl

@[simp] theorem pastAll_cons (c : CallSite) (calls : List CallSite) :
    e.pastAll (c :: calls) = (e.pastAll calls).past c := rfl

theorem pastAll_append (calls inner : List CallSite) (e : RunError) :
    e.pastAll (calls ++ inner) = (e.pastAll inner).pastAll calls :=
  List.foldr_append

/-- A cancellation stays one on every level. -/
theorem pastAll_cancelled (calls : List CallSite) :
    pastAll calls .cancelled = .cancelled := by
  induction calls with
  | nil => rfl
  | cons c calls ih =>
    rw [pastAll_cons, ih]
    rfl

/-- An error that the calling workflow can handle becomes the failure of the calling step. -/
theorem past_of_not_isFatal (c : CallSite) (hfatal : e.isFatal = false)
    (hcancelled : e ≠ .cancelled) :
    e.past c = .stepFailed c.step (.subWorkflowFailed c.workflow e.message) := by
  unfold past Session.asStepError
  cases e with
  | cancelled => exact absurd rfl hcancelled
  | _ =>
    dsimp only
    rw [hfatal]
    rfl

/-- The failure of a calling step tells the text of the failure in the called workflow. -/
theorem message_stepFailed_subWorkflowFailed (c : CallSite) (text : String) :
    (stepFailed c.step (.subWorkflowFailed c.workflow text)).message = c.wrap text := by
  have hjoin : "' failed: sub-workflow '" = "' failed: " ++ "sub-workflow '" := by simp
  unfold message StepError.message CallSite.wrap
  rw [hjoin]
  simp only [toString, String.append_assoc]

/-- The text of an error that can be handled is wrapped once for each call. -/
theorem pastAll_of_not_isFatal (calls : List CallSite) (hfatal : e.isFatal = false)
    (hcancelled : e ≠ .cancelled) :
    (e.pastAll calls).isFatal = false ∧ e.pastAll calls ≠ .cancelled ∧
      (e.pastAll calls).message = calls.foldr CallSite.wrap e.message := by
  induction calls with
  | nil => simp [hfatal, hcancelled]
  | cons c calls ih =>
    obtain ⟨hfatal', hcancelled', hmessage⟩ := ih
    rw [pastAll_cons, past_of_not_isFatal c hfatal' hcancelled',
      message_stepFailed_subWorkflowFailed, hmessage, List.foldr_cons]
    exact ⟨rfl, nofun, rfl⟩

end RunError

namespace Session

variable {s : Step} {outcome : StepOutcome} {e : StepError}

/-- An error that ends the run at once is that of the step. -/
theorem fatalError?_eq_toRunError {cause : RunError} (he : outcome.error = some e)
    (h : fatalError? s outcome = some cause) : cause = e.toRunError s.id := by
  unfold fatalError? at h
  rw [he] at h
  cases e with
  | cancelled | aborted => exact (Option.some.inj h).symm
  | _ =>
    dsimp only at h
    split at h
    · exact (Option.some.inj h).symm
    · cases h

/-- The walk ends with the failure of a strict step that does not end the run at once. -/
theorem endError?_of_strict (hs : s.Strict) (h : fatalError? s (.failed e) = none) :
    endError? s (.failed e) = some (e.toRunError s.id) := by
  have hnext : s.next (.failed e) = none := by
    simp [Step.next, StepOutcome.failed, hs.1, hs.2]
  unfold endError?
  rw [if_pos ⟨hnext, hs.1⟩]
  cases e with
  | cancelled | aborted => cases h
  | _ => rfl

end Session

/-- An outcome of a step with an error is a plain failure. -/
theorem Course.eq_failed {run : Session} {levels : Nat} {s : Step} {p : Progress}
    {t : List Exchange} {r : Progress × StepOutcome} {e : StepError}
    (h : Course run (.attempt levels s p) t r) (he : r.2.error = some e) : r.2 = .failed e := by
  rcases h.suits with ⟨hnone, _⟩ | ⟨e', he'⟩
  · rw [hnone] at he
    cases he
  · rw [he'] at he ⊢
    rw [Option.some.inj he]

namespace Piece

/-- The call that a piece makes when it begins another one, if it makes any. -/
def calls : Piece → Piece → List CallSite
  | .attempt _ s _, .call _ id _ => [⟨s.id, id⟩]
  | _, _ => []

end Piece

/-- A piece encloses another one, which comes after some exchanges and lies in some calls. -/
inductive Encloses (run : Session) : Piece → List Exchange → List CallSite → Piece → Prop where
  | here (x : Piece) : Encloses run x [] [] x
  | inside {x y z : Piece} {t u : List Exchange} {calls : List CallSite} (h : Begins run x t y)
      (hrest : Encloses run y u calls z) : Encloses run x (t ++ u) (x.calls y ++ calls) z

/-- Along a trace through a piece, the execution of a step has failed, which lies in some calls;
    and the clock has been read after it. -/
def Piece.Fails (run : Session) (x : Piece) (t : List Exchange) (calls : List CallSite)
    (step : String) (e : StepError) : Prop :=
  ∃ b levels s p u q outcome endedAt, Encloses run x b calls (.attempt levels s p) ∧
    (run.executeStep (run.call levels) s p).Ends u (q, outcome) ∧ outcome.error = some e ∧
    s.id = step ∧ t = b ++ (u ++ [⟨.clock, endedAt⟩])

theorem Begins.fails {run : Session} {x y : Piece} {t u : List Exchange} {calls : List CallSite}
    {step : String} {e : StepError} (h : Begins run x t y) (hy : y.Fails run u calls step e) :
    x.Fails run (t ++ u) (x.calls y ++ calls) step e := by
  obtain ⟨b, levels, s, p, v, q, outcome, endedAt, hencloses, hends, herror, hid, rfl⟩ := hy
  exact ⟨t ++ b, levels, s, p, v, q, outcome, endedAt, .inside h hencloses, hends, herror, hid,
    (List.append_assoc ..).symm⟩

end DeviceFlow
