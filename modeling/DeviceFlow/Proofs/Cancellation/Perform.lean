import DeviceFlow.Proofs.Cancellation.Yield
import DeviceFlow.Run.Perform

/-!
# Steps yield to a cancellation

A step that is halted asks nothing more of its surroundings, and fails at most with an error that
does not end the run by itself. So it is the pause after the step that the cancellation shows in,
if not the step.
-/

namespace DeviceFlow

/-- What an attempt comes to when it succeeds only as expected, and fails only with an error that
    does not end the run by itself. -/
def Tame {α : Type} (P : α → Prop) : Except StepError α → Prop
  | .ok a => P a
  | .error e => e.isFatal = false

namespace Attempt

open Plan

variable {α β : Type} {P Q : α → Prop}

theorem subdued_pure {a : α} (h : Q a) : (pure a : Attempt α).run.Subdued (Tame Q) :=
  subdued_done h

theorem yields_pure {a : α} : (pure a : Attempt α).run.Yields (Tame Q) :=
  yields_done

theorem subdued_throw {e : StepError} (h : e.isFatal = false) :
    (throw e : Attempt α).run.Subdued (Tame Q) :=
  subdued_done h

theorem yields_throw {e : StepError} : (throw e : Attempt α).run.Yields (Tame Q) :=
  yields_done

theorem subdued_bind {x : Attempt α} {f : α → Attempt β} {R : β → Prop}
    (hx : x.run.Subdued (Tame P)) (hf : ∀ a, P a → (f a).run.Subdued (Tame R)) :
    (x >>= f).run.Subdued (Tame R) := by
  rw [ExceptT.run_bind]
  refine hx.bind ?_
  intro r hr
  cases r with
  | ok a => exact hf a hr
  | error e => exact subdued_done hr

theorem yields_bind {x : Attempt α} {f : α → Attempt β} {R : β → Prop}
    (hx : x.run.Yields (Tame P)) (hs : ∀ a, P a → (f a).run.Subdued (Tame R))
    (hf : ∀ a, (f a).run.Yields (Tame R)) : (x >>= f).run.Yields (Tame R) := by
  rw [ExceptT.run_bind]
  refine hx.bind ?_ ?_
  · intro r hr
    cases r with
    | ok a => exact hs a hr
    | error e => exact subdued_done hr
  · intro r
    cases r with
    | ok a => exact hf a
    | error e => exact yields_done

/-- What comes after an attempt that cannot be halted need not be subdued. -/
theorem yields_bind_of_prompt {x : Attempt α} {f : α → Attempt β} {R : β → Prop}
    (hx : x.run.Yields (Tame fun _ => False)) (hf : ∀ a, (f a).run.Yields (Tame R)) :
    (x >>= f).run.Yields (Tame R) :=
  yields_bind hx (fun _ h => h.elim) hf

theorem subdued_lift {p : Plan α} (h : p.Subdued Q) :
    (ExceptT.lift p : Attempt α).run.Subdued (Tame Q) := by
  rw [ExceptT.run_lift]
  exact Subdued.bind h fun a ha => subdued_done ha

theorem yields_lift {p : Plan α} (h : p.Yields Q) :
    (ExceptT.lift p : Attempt α).run.Yields (Tame Q) := by
  rw [ExceptT.run_lift]
  exact Yields.bind h (fun a ha => subdued_done ha) fun a => yields_done

theorem subdued_log (record : LogRecord) :
    (Attempt.log record).run.Subdued (Tame fun _ => True) :=
  subdued_lift (Plan.subdued_log record)

theorem yields_log (record : LogRecord) {R : Unit → Prop} :
    (Attempt.log record).run.Yields (Tame R) :=
  yields_lift (Plan.yields_log record)

theorem yields_logAll (records : List LogRecord) {R : Unit → Prop} :
    (Attempt.logAll records).run.Yields (Tame R) := by
  induction records with
  | nil => exact yields_pure
  | cons record rest ih => exact yields_bind_of_prompt (yields_log record) fun _ => ih

theorem yields_require (present : Bool) (what : String) {R : Unit → Prop} :
    (Attempt.require present what).run.Yields (Tame R) := by
  unfold Attempt.require
  split
  · exact yields_pure
  · exact yields_throw

theorem yields_parameter {stepType name : String} {value : Option α} :
    (Attempt.parameter stepType name value).run.Yields (Tame Q) := by
  unfold Attempt.parameter
  split
  · exact yields_pure
  · exact yields_throw

/-- The error of a device, or of one of its helpers, does not end the run by itself. -/
theorem yields_device {plan : Plan (Except DeviceError α)} (h : plan.Yields fun _ => True) :
    (Attempt.device plan).run.Yields (Tame fun _ => True) := by
  unfold Attempt.device
  refine yields_bind (yields_lift h) ?_ ?_
  · intro answer _
    cases answer with
    | ok a => exact subdued_pure trivial
    | error e => exact subdued_throw rfl
  · intro answer
    cases answer with
    | ok a => exact yields_pure
    | error e => exact yields_throw

theorem yields_perform (call : DeviceCall) :
    (Attempt.perform call).run.Yields (Tame fun _ => True) :=
  yields_device (yields_request.mono fun _ _ => trivial)

theorem yields_play (script : String) :
    (Attempt.play script).run.Yields (Tame fun _ => True) :=
  yields_device (yields_request.mono fun _ _ => trivial)

theorem yields_look : Attempt.look.run.Yields (Tame fun _ => True) :=
  yields_device (yields_request.mono fun _ _ => trivial)

/-- A cancelled run does not get past a pause. -/
theorem subdued_sleep (ms : Nat) : (Attempt.sleep ms).run.Subdued (Tame fun _ => False) := by
  unfold Attempt.sleep
  refine subdued_bind (subdued_lift (Plan.subdued_sleep ms)) ?_
  rintro whole rfl
  exact subdued_throw rfl

/-- A run that is halted by a pause does not get past it. -/
theorem yields_sleep (ms : Nat) : (Attempt.sleep ms).run.Yields (Tame fun _ => False) := by
  unfold Attempt.sleep
  refine yields_bind (yields_lift (Plan.yields_sleep ms)) ?_ ?_
  · rintro whole rfl
    exact subdued_throw rfl
  · intro whole
    cases whole with
    | true => exact yields_pure
    | false => exact yields_throw

end Attempt

open Attempt

/-- What a step leaves behind that has not failed. -/
def Effect.Sound (effect : Effect) : Prop := effect.1.error = none

/-- A step whose last act is a single attempt yields if the attempt does. -/
theorem yields_lastly {α : Type} {x : Attempt α} {effect : α → Effect}
    (hx : x.run.Yields (Tame fun _ => True)) (he : ∀ a, (effect a).Sound) :
    (do let a ← x; return effect a : Attempt Effect).run.Yields (Tame Effect.Sound) :=
  yields_bind hx (fun a _ => subdued_pure (he a)) fun _ => yields_pure

theorem yields_refuseMissing {α : Type} {stepType : String} {parameters : List (String × Bool)}
    {Q : α → Prop} : (refuseMissing stepType parameters : Attempt α).run.Yields (Tame Q) :=
  yields_throw

theorem yields_performTap (x y : Option Int32) (vars : Variables) :
    (performTap x y vars).run.Yields (Tame Effect.Sound) := by
  unfold performTap
  split
  · exact yields_lastly (yields_perform _) fun _ => rfl
  · exact yields_refuseMissing

theorem yields_performSwipe (rig : Rig) (x1 y1 x2 y2 : Option Int32)
    (durationMs : Option UInt64) (vars : Variables) :
    (performSwipe rig x1 y1 x2 y2 durationMs vars).run.Yields (Tame Effect.Sound) := by
  unfold performSwipe
  split
  · exact yields_lastly (yields_perform _) fun _ => rfl
  · exact yields_refuseMissing

theorem yields_elementAction {kind : ElementActionKind} {text : Option String}
    {direction : Option Direction} {vars : Variables} {Q : ElementAction → Prop} :
    (elementAction kind text direction vars).run.Yields (Tame Q) := by
  unfold elementAction
  cases kind with
  | inputText =>
    exact yields_bind_of_prompt yields_parameter fun _ => yields_pure
  | swipe =>
    exact yields_bind_of_prompt yields_parameter fun _ => yields_pure
  | click | longClick | waitAppear | waitDisappear => exact yields_pure

theorem yields_performElement (rig : Rig) (s : Step) (kind : Option ElementActionKind)
    (selector : Option Selector) (text : Option String) (direction : Option Direction)
    (vars : Variables) :
    (performElement rig s kind selector text direction vars).run.Yields
      (Tame Effect.Sound) := by
  unfold performElement
  split
  · refine yields_bind_of_prompt yields_elementAction fun action => ?_
    refine yields_bind_of_prompt (yields_log _) fun _ => ?_
    exact yields_lastly (yields_perform _) fun _ => rfl
  · exact yields_refuseMissing

theorem yields_performApp (action : Option AppAction) (package : Option String)
    (vars : Variables) :
    (performApp action package vars).run.Yields (Tame Effect.Sound) := by
  unfold performApp
  split
  · exact yields_lastly (yields_perform _) fun _ => rfl
  · exact yields_refuseMissing

theorem yields_kind (p : BranchParameters) {Q : Condition → Prop} :
    p.kind.run.Yields (Tame Q) := by
  unfold BranchParameters.kind
  refine yields_bind_of_prompt yields_parameter fun name => ?_
  split
  · exact yields_pure
  · exact yields_throw

theorem yields_compareVariable (p : BranchParameters) (vars : Variables) {Q : Bool → Prop} :
    (p.compareVariable vars).run.Yields (Tame Q) := by
  unfold BranchParameters.compareVariable
  refine yields_bind_of_prompt yields_parameter fun name => ?_
  exact yields_bind_of_prompt (yields_log _) fun _ => yields_pure

theorem yields_askScreen (p : BranchParameters) (rig : Rig) (c : Condition) (vars : Variables) :
    (p.askScreen rig c vars).run.Yields (Tame fun _ => True) := by
  unfold BranchParameters.askScreen
  refine yields_bind_of_prompt yields_parameter fun selector => ?_
  extract_lets sought ask
  have hask : ∀ expected : String, (ask expected).run.Yields (Tame fun _ => True) := by
    intro expected
    refine yields_bind_of_prompt (yields_require _ _) fun _ => ?_
    refine yields_bind yields_look ?_ ?_
    · intro screen _
      exact subdued_bind (subdued_log _) fun _ _ => subdued_pure trivial
    · intro screen
      exact yields_bind_of_prompt (yields_log _) fun _ => yields_pure
  split
  · exact yields_bind_of_prompt yields_parameter hask
  · exact yields_bind_of_prompt yields_pure hask

theorem yields_evaluate (p : BranchParameters) (rig : Rig) (vars : Variables) :
    (p.evaluate rig vars).run.Yields (Tame fun _ => True) := by
  unfold BranchParameters.evaluate
  refine yields_bind_of_prompt (yields_kind p) fun c => ?_
  split
  · exact yields_compareVariable p vars
  · exact yields_askScreen p rig _ vars

theorem yields_performBranch (rig : Rig) (p : BranchParameters) (vars : Variables) :
    (performBranch rig p vars).run.Yields (Tame Effect.Sound) :=
  yields_lastly (yields_evaluate p rig vars) fun _ => rfl

theorem yields_performWait (durationMs : Option UInt64) (vars : Variables) :
    (performWait durationMs vars).run.Yields (Tame Effect.Sound) := by
  unfold performWait
  refine yields_bind_of_prompt yields_parameter fun duration => ?_
  exact yields_bind_of_prompt (yields_sleep _) fun _ => yields_pure

theorem yields_performScript (rig : Rig) (name : Option String) (vars : Variables) :
    (performScript rig name vars).run.Yields (Tame Effect.Sound) := by
  unfold performScript
  refine yields_bind_of_prompt yields_parameter fun name => ?_
  refine yields_bind_of_prompt (yields_require _ _) fun _ => ?_
  exact yields_lastly (yields_play _) fun _ => rfl

theorem yields_performSet (name value : Option String) (vars : Variables) :
    (performSet name value vars).run.Yields (Tame Effect.Sound) := by
  unfold performSet
  refine yields_bind_of_prompt yields_parameter fun name => ?_
  refine yields_bind_of_prompt (yields_logAll _) fun _ => ?_
  exact yields_bind_of_prompt (yields_log _) fun _ => yields_pure

/-- A run that is halted while it waits for an element does not look again: it either has what it
    sought, or gives up at once, or is told in the pause before the next look. -/
theorem yields_awaitElement (rig : Rig) (selector : Selector) (deadline : Option Nat)
    (looks : Nat) :
    (awaitElement rig selector deadline looks).run.Yields (Tame fun _ => True) := by
  induction looks with
  | zero => exact yields_throw
  | succ looks ih =>
    unfold awaitElement
    refine yields_bind yields_look ?_ ?_
    · intro screen _
      split
      · exact subdued_pure trivial
      · split
        · exact subdued_throw rfl
        · refine subdued_bind (subdued_lift Plan.subdued_clock) fun now _ => ?_
          split
          · exact subdued_bind (subdued_sleep _) fun _ h => h.elim
          · exact subdued_throw rfl
    · intro screen
      split
      · exact yields_pure
      · split
        · exact yields_throw
        · refine yields_bind_of_prompt (yields_lift Plan.yields_clock) fun now => ?_
          split
          · exact yields_bind_of_prompt (yields_sleep _) fun _ => ih
          · exact yields_throw

theorem yields_deadlineOf (limitMs : Option Nat) {Q : Option Nat → Prop} :
    (deadlineOf limitMs).run.Yields (Tame Q) := by
  unfold deadlineOf
  split
  · exact yields_pure
  · exact yields_bind_of_prompt (yields_lift Plan.yields_clock) fun _ => yields_pure

theorem yields_performRead (rig : Rig) (s : Step) (name : Option String)
    (selector : Option Selector) (what : Attribute) (vars : Variables) :
    (performRead rig s name selector what vars).run.Yields (Tame Effect.Sound) := by
  unfold performRead
  split
  · refine yields_bind_of_prompt (yields_require _ _) fun _ => ?_
    refine yields_bind_of_prompt (yields_deadlineOf _) fun deadline => ?_
    refine yields_bind (yields_awaitElement ..) ?_ ?_
    · intro element _
      exact subdued_bind (subdued_log _) fun _ _ => subdued_pure rfl
    · intro element
      exact yields_bind_of_prompt (yields_log _) fun _ => yields_pure
  · exact yields_refuseMissing

theorem yields_performShell (command saveTo : Option String) (vars : Variables) :
    (performShell command saveTo vars).run.Yields (Tame Effect.Sound) := by
  unfold performShell
  refine yields_bind_of_prompt yields_parameter fun command => ?_
  exact yields_lastly (yields_perform _) fun _ => rfl

theorem yields_performKey (keyCode : Option Int32) (vars : Variables) :
    (performKey keyCode vars).run.Yields (Tame Effect.Sound) := by
  unfold performKey
  refine yields_bind_of_prompt yields_parameter fun code => ?_
  exact yields_lastly (yields_perform _) fun _ => rfl

/-- A step that is halted asks nothing more, and does not end the run by itself. -/
theorem Step.yields_perform (rig : Rig) (s : Step) (vars : Variables) :
    (s.perform rig vars).run.Yields (Tame Effect.Sound) := by
  unfold Step.perform
  split
  · exact yields_pure
  · exact yields_performTap ..
  · exact yields_performSwipe ..
  · exact yields_performElement ..
  · exact yields_performApp ..
  · exact yields_performBranch ..
  · exact yields_performWait ..
  · exact yields_performScript ..
  · exact yields_performSet ..
  · exact yields_performRead ..
  · exact yields_performShell ..
  · exact yields_performKey ..
  all_goals exact yields_bind_of_prompt (yields_log _) fun _ => yields_throw

end DeviceFlow
