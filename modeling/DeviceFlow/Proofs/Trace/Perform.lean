import DeviceFlow.Proofs.Trace.Keeps
import DeviceFlow.Run.Walk

/-!
# What steps and reports keep to

A step that does not call a workflow asks the clock, the device and its helpers only; it tells
no event and loads nothing. Its errors are its own: none is handed on from a called workflow.
What a run does besides its steps is to look at its token and to report.
-/

namespace DeviceFlow

/-- The requests of a step that does not call a workflow. -/
def Request.OfStep : Request → Prop
  | .log _ | .clock | .sleep _ | .perform _ | .play _ | .look => True
  | .emit _ | .date | .isCancelled | .load _ => False

/-- An error that does not come from the call of a workflow. -/
def StepError.IsOwn : StepError → Prop
  | .missingParameters .. | .unsupportedStep | .unknownCondition _ | .unavailable _ | .device _
  | .cancelled => True
  | .workflowNotFound _ | .store _ | .nestingDepthExceeded _ | .subWorkflowFailed ..
  | .aborted _ => False

/-- What a step leaves behind that has not failed. -/
def Effect.IsSuccess (effect : Effect) : Prop := effect.1.error = none

/-- An attempt that keeps to what a step does. -/
abbrev Attempt.Modest {α : Type} (x : Attempt α) (P : α → Prop) : Prop :=
  Attempt.Keeps Request.OfStep P StepError.IsOwn x

namespace Attempt

variable {α : Type}

theorem parameter_some_bind {β : Type} (stepType name : String) (a : α) (f : α → Attempt β) :
    (Attempt.parameter stepType name (some a) >>= f) = f a := rfl

theorem modest_log (record : LogRecord) : (Attempt.log record).Modest fun _ => True :=
  keeps_log.mpr ⟨trivial, trivial⟩

theorem modest_logAll (records : List LogRecord) :
    (Attempt.logAll records).Modest fun _ => True :=
  keeps_logAll (fun _ => trivial) trivial

theorem modest_require (present : Bool) (what : String) :
    (Attempt.require present what).Modest fun _ => True :=
  keeps_require trivial trivial

theorem modest_parameter (stepType name : String) (value : Option α) :
    (Attempt.parameter stepType name value).Modest fun _ => True :=
  keeps_parameter trivial fun _ => trivial

theorem modest_perform (call : DeviceCall) : (Attempt.perform call).Modest fun _ => True :=
  keeps_device ⟨trivial, fun _ => trivial⟩ (fun _ => trivial) fun _ => trivial

theorem modest_play (script : String) : (Attempt.play script).Modest fun _ => True :=
  keeps_device ⟨trivial, fun _ => trivial⟩ (fun _ => trivial) fun _ => trivial

theorem modest_look : Attempt.look.Modest fun _ => True :=
  keeps_device ⟨trivial, fun _ => trivial⟩ (fun _ => trivial) fun _ => trivial

theorem modest_clock : Attempt.Modest (ExceptT.lift Plan.clock) fun _ => True :=
  keeps_lift.mpr ⟨trivial, fun _ => trivial⟩

theorem modest_sleep (ms : Nat) : (Attempt.sleep ms).Modest fun _ => True := by
  unfold Attempt.sleep
  rw [Modest, keeps_bind, keeps_lift]
  refine ⟨trivial, fun whole => ?_⟩
  cases whole with
  | true => trivial
  | false => trivial

/-- The rule for a sequence of attempts. -/
theorem Modest.bind {β : Type} {x : Attempt α} {f : α → Attempt β} {R : β → Prop}
    (hx : x.Modest fun _ => True) (hf : ∀ a, (f a).Modest R) : (x >>= f).Modest R :=
  keeps_bind.mpr (hx.mono fun a _ => hf a)

end Attempt

open Attempt

theorem modest_refuseMissing {α : Type} {P : α → Prop} (stepType : String)
    (parameters : List (String × Bool)) : (refuseMissing stepType parameters).Modest P :=
  keeps_throw.mpr trivial

theorem modest_performTap (x y : Option Int32) (vars : Variables) :
    (performTap x y vars).Modest Effect.IsSuccess := by
  unfold performTap
  split
  · exact (modest_perform _).bind fun _ => rfl
  · exact modest_refuseMissing ..

theorem modest_performSwipe (rig : Rig) (x1 y1 x2 y2 : Option Int32)
    (durationMs : Option UInt64) (vars : Variables) :
    (performSwipe rig x1 y1 x2 y2 durationMs vars).Modest Effect.IsSuccess := by
  unfold performSwipe
  split
  · exact (modest_perform _).bind fun _ => rfl
  · exact modest_refuseMissing ..

theorem modest_elementAction (kind : ElementActionKind) (text : Option String)
    (direction : Option Direction) (vars : Variables) :
    (elementAction kind text direction vars).Modest fun _ => True := by
  unfold elementAction
  cases kind with
  | inputText | swipe => exact (modest_parameter ..).bind fun _ => trivial
  | click | longClick | waitAppear | waitDisappear => trivial

theorem modest_performElement (rig : Rig) (s : Step) (kind : Option ElementActionKind)
    (selector : Option Selector) (text : Option String) (direction : Option Direction)
    (vars : Variables) :
    (performElement rig s kind selector text direction vars).Modest Effect.IsSuccess := by
  unfold performElement
  split
  · refine (modest_elementAction ..).bind fun action => ?_
    refine (modest_log _).bind fun _ => ?_
    exact (modest_perform _).bind fun _ => rfl
  · exact modest_refuseMissing ..

theorem modest_performApp (action : Option AppAction) (package : Option String)
    (vars : Variables) : (performApp action package vars).Modest Effect.IsSuccess := by
  unfold performApp
  split
  · exact (modest_perform _).bind fun _ => rfl
  · exact modest_refuseMissing ..

theorem BranchParameters.evaluate_eq (p : BranchParameters) (rig : Rig) (vars : Variables) :
    p.evaluate rig vars =
      match p.condition with
      | none => throw (.missingParameters "branch" ["condition"])
      | some text =>
        match Condition.ofText? text with
        | none => throw (.unknownCondition (Text.trimmed text))
        | some .variableEquals => p.compareVariable vars
        | some c => p.askScreen rig c vars := by
  unfold evaluate kind
  cases p.condition with
  | none => rfl
  | some text =>
    rw [Attempt.parameter_some_bind]
    dsimp only
    cases Condition.ofText? text with
    | none => rfl
    | some c => cases c <;> rfl

theorem modest_kind (p : BranchParameters) : p.kind.Modest fun _ => True := by
  unfold BranchParameters.kind
  refine (modest_parameter ..).bind fun name => ?_
  split
  · trivial
  · trivial

theorem modest_compareVariable (p : BranchParameters) (vars : Variables) :
    (p.compareVariable vars).Modest fun _ => True := by
  unfold BranchParameters.compareVariable
  refine (modest_parameter ..).bind fun name => ?_
  exact (modest_log _).bind fun _ => trivial

theorem modest_askScreen (p : BranchParameters) (rig : Rig) (c : Condition)
    (vars : Variables) : (p.askScreen rig c vars).Modest fun _ => True := by
  unfold BranchParameters.askScreen
  refine (modest_parameter ..).bind fun selector => ?_
  have hask : ∀ expected : String, Attempt.Modest (do
      Attempt.require rig.hasScreen "snapshot provider"
      let found := (← Attempt.look).find? (selector.substitute vars)
      Attempt.log (.debug .condition
        s!"{c.label} {(selector.substitute vars).text}: found={found.isSome}")
      return c.holds found expected) fun _ => True := by
    intro expected
    refine (modest_require _ _).bind fun _ => ?_
    refine modest_look.bind fun screen => ?_
    exact (modest_log _).bind fun _ => trivial
  split
  · exact (modest_parameter ..).bind hask
  · exact hask ""

theorem modest_evaluate (p : BranchParameters) (rig : Rig) (vars : Variables) :
    (p.evaluate rig vars).Modest fun _ => True := by
  unfold BranchParameters.evaluate
  refine (modest_kind p).bind fun c => ?_
  split
  · exact modest_compareVariable p vars
  · exact modest_askScreen p rig _ vars

theorem modest_performBranch (rig : Rig) (p : BranchParameters) (vars : Variables) :
    (performBranch rig p vars).Modest Effect.IsSuccess :=
  (modest_evaluate p rig vars).bind fun _ => rfl

theorem modest_performWait (durationMs : Option UInt64) (vars : Variables) :
    (performWait durationMs vars).Modest Effect.IsSuccess := by
  unfold performWait
  refine (modest_parameter ..).bind fun duration => ?_
  exact (modest_sleep _).bind fun _ => rfl

theorem modest_performScript (rig : Rig) (name : Option String) (vars : Variables) :
    (performScript rig name vars).Modest Effect.IsSuccess := by
  unfold performScript
  refine (modest_parameter ..).bind fun name => ?_
  refine (modest_require _ _).bind fun _ => ?_
  exact (modest_play _).bind fun _ => rfl

theorem modest_performSet (name value : Option String) (vars : Variables) :
    (performSet name value vars).Modest Effect.IsSuccess := by
  unfold performSet
  refine (modest_parameter ..).bind fun name => ?_
  refine (modest_logAll _).bind fun _ => ?_
  exact (modest_log _).bind fun _ => rfl

theorem modest_awaitElement (rig : Rig) (selector : Selector) (deadline : Option Nat)
    (looks : Nat) : (awaitElement rig selector deadline looks).Modest fun _ => True := by
  induction looks with
  | zero => trivial
  | succ looks ih =>
    unfold awaitElement
    refine modest_look.bind fun screen => ?_
    split
    · trivial
    · split
      · trivial
      · refine modest_clock.bind fun now => ?_
        split
        · exact (modest_sleep _).bind fun _ => ih
        · trivial

theorem modest_deadlineOf (limitMs : Option Nat) :
    (deadlineOf limitMs).Modest fun _ => True := by
  unfold deadlineOf
  split
  · trivial
  · exact modest_clock.bind fun _ => trivial

theorem modest_performRead (rig : Rig) (s : Step) (name : Option String)
    (selector : Option Selector) (what : Attribute) (vars : Variables) :
    (performRead rig s name selector what vars).Modest Effect.IsSuccess := by
  unfold performRead
  split
  · refine (modest_require _ _).bind fun _ => ?_
    refine (modest_deadlineOf _).bind fun deadline => ?_
    refine (modest_awaitElement ..).bind fun element => ?_
    exact (modest_log _).bind fun _ => rfl
  · exact modest_refuseMissing ..

theorem modest_performShell (command saveTo : Option String) (vars : Variables) :
    (performShell command saveTo vars).Modest Effect.IsSuccess := by
  unfold performShell
  refine (modest_parameter ..).bind fun command => ?_
  exact (modest_perform _).bind fun _ => rfl

theorem modest_performKey (keyCode : Option Int32) (vars : Variables) :
    (performKey keyCode vars).Modest Effect.IsSuccess := by
  unfold performKey
  refine (modest_parameter ..).bind fun code => ?_
  exact (modest_perform _).bind fun _ => rfl

/-- A step that does not call a workflow tells no event and loads nothing; it either leaves no
    error behind, or fails with an error of its own. -/
theorem Step.modest_perform (rig : Rig) (s : Step) (vars : Variables) :
    (s.perform rig vars).Modest Effect.IsSuccess := by
  unfold Step.perform
  split
  · exact keeps_pure.mpr rfl
  · exact modest_performTap ..
  · exact modest_performSwipe ..
  · exact modest_performElement ..
  · exact modest_performApp ..
  · exact modest_performBranch ..
  · exact modest_performWait ..
  · exact modest_performScript ..
  · exact modest_performSet ..
  · exact modest_performRead ..
  · exact modest_performShell ..
  · exact modest_performKey ..
  all_goals exact (modest_log _).bind fun _ => keeps_throw.mpr trivial

namespace Session

open Plan

variable {run : Session} {G : Request → Prop}

theorem keeps_reportFailure (hlog : ∀ record, G (.log record)) (s : Step) (number : Nat)
    (outcome : StepOutcome) : (reportFailure s number outcome).Keeps G fun _ => True := by
  unfold reportFailure
  split
  · exact Plan.keeps_log.mpr ⟨hlog _, trivial⟩
  · trivial

theorem keeps_obstacle (htoken : G .isCancelled) (p : Progress) :
    (run.obstacle p).Keeps G fun _ => True := by
  unfold obstacle
  refine Keeps.bind (keeps_isCancelled.mpr ⟨htoken, fun _ => trivial⟩) fun cancelled _ => ?_
  split
  · trivial
  · split
    · trivial
    · trivial

/-- What keeps a walk from dispatching a step, and what the run has asked to find it out. -/
theorem ends_obstacle_iff {p : Progress} {t : List Exchange} {blocked : Option RunError} :
    (run.obstacle p).Ends t blocked ↔
      (t = [⟨.isCancelled, true⟩] ∧ blocked = some .cancelled) ∨
      (t = [⟨.isCancelled, false⟩] ∧ blocked =
        if run.rig.settings.maxSteps ≤ p.steps then
          some (.stepBudgetExceeded run.rig.settings.maxSteps) else none) := by
  unfold obstacle
  constructor
  · intro h
    obtain ⟨cancelled, t, rfl, hread⟩ := ends_request_bind.mp h
    cases cancelled with
    | true =>
      obtain ⟨rfl, rfl⟩ := ends_done.mp hread
      exact .inl ⟨rfl, rfl⟩
    | false =>
      right
      by_cases hlimit : run.rig.settings.maxSteps ≤ p.steps
      · rw [if_pos hlimit]
        obtain ⟨rfl, rfl⟩ := ends_done.mp (by simpa [hlimit] using hread)
        exact ⟨rfl, rfl⟩
      · rw [if_neg hlimit]
        obtain ⟨rfl, rfl⟩ := ends_done.mp (by simpa [hlimit] using hread)
        exact ⟨rfl, rfl⟩
  · rintro (⟨rfl, rfl⟩ | ⟨rfl, rfl⟩)
    · exact ends_request_bind.mpr ⟨true, [], rfl, ends_done.mpr ⟨rfl, rfl⟩⟩
    · refine ends_request_bind.mpr ⟨false, [], rfl, ?_⟩
      by_cases hlimit : run.rig.settings.maxSteps ≤ p.steps
      · simp [hlimit]
      · simp [hlimit]

theorem ends_obstacle {p : Progress} (hroom : p.steps < run.rig.settings.maxSteps) :
    (run.obstacle p).Ends [⟨.isCancelled, false⟩] none :=
  ends_obstacle_iff.mpr (.inr ⟨rfl, (if_neg (Nat.not_le.mpr hroom)).symm⟩)

/-- A walk goes on only when it has not been cancelled and may still dispatch a step. -/
theorem of_ends_obstacle {p : Progress} {t : List Exchange}
    (h : (run.obstacle p).Ends t none) :
    t = [⟨.isCancelled, false⟩] ∧ p.steps < run.rig.settings.maxSteps := by
  rcases ends_obstacle_iff.mp h with ⟨_, hblocked⟩ | ⟨rfl, hblocked⟩
  · cases hblocked
  · refine ⟨rfl, Nat.lt_of_not_le fun hlimit => ?_⟩
    rw [if_pos hlimit] at hblocked
    cases hblocked

theorem keeps_announceEnd (hlog : ∀ record, G (.log record)) {w : Workflow} {p : Progress}
    {status : RunStatus} {error : Option String} {durationMs : Nat}
    (hfailed : ∀ text, G (.emit (.runFailed run.device w.id text p.steps durationMs)))
    (hended : G (.emit (.runCompleted run.device w.id status p.steps durationMs))) :
    (run.announceEnd w p status error durationMs).Keeps G fun _ => True := by
  unfold announceEnd
  cases error with
  | some text =>
    exact Keeps.bind (Q := fun _ => True) (Plan.keeps_log.mpr ⟨hlog _, trivial⟩) fun _ _ =>
      keeps_emit.mpr ⟨hfailed text, trivial⟩
  | none =>
    exact Keeps.bind (Q := fun _ => True) (Plan.keeps_log.mpr ⟨hlog _, trivial⟩) fun _ _ =>
      keeps_emit.mpr ⟨hended, trivial⟩

end Session

end DeviceFlow
