import DeviceFlow.Proofs.Timing.Basic
import DeviceFlow.Proofs.Touch.Step
import DeviceFlow.Proofs.Failure.Level

/-!
# Runs that nothing cancels

A step fails because of a cancellation only when it has been told of one: a pause has been cut
short, or the run has been told that it is cancelled. What it has been told in a called workflow is
handed on. So along a trace without a cancellation no part of a run is cancelled.
-/

namespace DeviceFlow

/-- The run is told of a cancellation. -/
def Exchange.Cancels : Exchange → Prop
  | ⟨.sleep _, (whole : Bool)⟩ => whole = false
  | ⟨.isCancelled, (cancelled : Bool)⟩ => cancelled = true
  | _ => False

/-- The run is told of no cancellation. -/
def Uncancelled (t : List Exchange) : Prop := ∀ x ∈ t, ¬ x.Cancels

namespace Attempt

open Plan

variable {α β : Type} {x : Attempt α} {f : α → Attempt β}

/-- The attempt fails because of a cancellation only when it is told of one. -/
def Heeds (x : Attempt α) : Prop :=
  ∀ t, Uncancelled t → ¬ x.run.Ends t (.error .cancelled)

theorem heeds_of_keeps {G : Request → Prop} {P : α → Prop} {E : StepError → Prop}
    (h : x.Keeps G P E) (hE : ¬ E .cancelled) : x.Heeds :=
  fun _ _ hends => hE (Plan.Keeps.follows h hends).2

theorem Checks.heeds (h : x.Checks) : x.Heeds := heeds_of_keeps h nofun

theorem heeds_pure (a : α) : Heeds (pure a) := Checks.heeds trivial

theorem heeds_throw {e : StepError} (he : e ≠ .cancelled) : Heeds (throw e : Attempt α) := by
  intro t _ h
  have heq := (ends_throw.mp h).2
  exact he (Except.error.inj heq).symm

theorem Heeds.bind (hx : x.Heeds) (hf : ∀ a, (f a).Heeds) : (x >>= f).Heeds := by
  intro t ht h
  rw [ExceptT.run_bind] at h
  obtain ⟨u, r, v, rfl, hu, hv⟩ := ends_bind.mp h
  obtain ⟨hfirst, hlater⟩ := List.forall_mem_append.mp ht
  cases r with
  | ok a => exact hf a v hlater hv
  | error e =>
    obtain ⟨-, heq⟩ := ends_done.mp hv
    cases heq
    exact hx u hfirst hu

theorem heeds_device (p : Plan (Except DeviceError α)) : (device p).Heeds :=
  heeds_of_keeps (E := (· ≠ .cancelled)) (P := fun _ => True)
    (keeps_device (gives_true p) (fun _ => nofun) fun _ => trivial) (· rfl)

theorem heeds_sleep (ms : Nat) : (sleep ms).Heeds := by
  intro t ht h
  obtain ⟨whole, u, rfl, hdone⟩ := ends_ask.mp h
  obtain rfl : whole = true := Bool.of_not_eq_false (ht _ List.mem_cons_self)
  cases (ends_done.mp hdone).2

theorem heeds_log (record : LogRecord) : (Attempt.log record).Heeds := (checks_log record).heeds

theorem heeds_lift (p : Plan α) : Heeds (ExceptT.lift p) :=
  heeds_of_keeps (E := fun _ => False) (keeps_lift.mpr (gives_true p)) id

theorem heeds_refuseMissing (stepType : String) (parameters : List (String × Bool)) :
    (refuseMissing stepType parameters : Attempt α).Heeds :=
  heeds_throw nofun

end Attempt

open Attempt

theorem heeds_awaitElement (rig : Rig) (selector : Selector) (deadline : Option Nat)
    (looks : Nat) : (awaitElement rig selector deadline looks).Heeds := by
  induction looks with
  | zero => exact heeds_throw nofun
  | succ looks ih =>
    unfold awaitElement
    refine (heeds_device _).bind fun screen => ?_
    split
    · exact heeds_pure _
    · split
      · exact heeds_throw nofun
      · refine (heeds_lift _).bind fun now => ?_
        split
        · exact (heeds_sleep _).bind fun _ => ih
        · exact heeds_throw nofun

theorem heeds_askScreen (p : BranchParameters) (rig : Rig) (c : Condition) (vars : Variables) :
    (p.askScreen rig c vars).Heeds := by
  unfold BranchParameters.askScreen
  refine (checks_parameter ..).heeds.bind fun selector => ?_
  have hask : ∀ expected : String, Attempt.Heeds (do
      Attempt.require rig.hasScreen "snapshot provider"
      let found := (← Attempt.look).find? (selector.substitute vars)
      Attempt.log (.debug .condition
        s!"{c.label} {(selector.substitute vars).text}: found={found.isSome}")
      return c.holds found expected) := by
    intro expected
    refine (checks_require ..).heeds.bind fun _ => ?_
    exact (heeds_device _).bind fun screen => (heeds_log _).bind fun _ => heeds_pure _
  split
  · exact (checks_parameter ..).heeds.bind hask
  · exact hask ""

theorem heeds_evaluate (p : BranchParameters) (rig : Rig) (vars : Variables) :
    (p.evaluate rig vars).Heeds := by
  rw [BranchParameters.evaluate_eq]
  split
  · exact heeds_throw nofun
  · split
    · exact heeds_throw nofun
    · refine (checks_parameter ..).heeds.bind fun name => ?_
      exact (heeds_log _).bind fun _ => heeds_pure _
    · exact heeds_askScreen p rig _ vars

/-- A step that calls no workflow is cancelled only when it is told of a cancellation. -/
theorem Step.heeds_perform (rig : Rig) (s : Step) (vars : Variables) :
    (s.perform rig vars).Heeds := by
  unfold Step.perform
  cases s.kind with
  | start => exact heeds_pure _
  | tap x y =>
    dsimp only [performTap]
    split
    · exact (heeds_device _).bind fun _ => heeds_pure _
    · exact heeds_refuseMissing _ _
  | swipe x1 y1 x2 y2 durationMs =>
    dsimp only [performSwipe]
    split
    · exact (heeds_device _).bind fun _ => heeds_pure _
    · exact heeds_refuseMissing _ _
  | element action selector text direction =>
    dsimp only [performElement]
    split
    · refine (checks_elementAction ..).heeds.bind fun action => ?_
      refine (heeds_log _).bind fun _ => ?_
      exact (heeds_device _).bind fun _ => heeds_pure _
    · exact heeds_refuseMissing _ _
  | app action package =>
    dsimp only [performApp]
    split
    · exact (heeds_device _).bind fun _ => heeds_pure _
    · exact heeds_refuseMissing _ _
  | branch condition selector variableName expectedValue =>
    exact (heeds_evaluate _ _ _).bind fun _ => heeds_pure _
  | wait durationMs =>
    refine (checks_parameter ..).heeds.bind fun duration => ?_
    exact (heeds_sleep _).bind fun _ => heeds_pure _
  | script name =>
    refine (checks_parameter ..).heeds.bind fun name => ?_
    refine (checks_require ..).heeds.bind fun _ => ?_
    exact (heeds_device _).bind fun _ => heeds_pure _
  | setVariable name value =>
    refine (checks_parameter ..).heeds.bind fun name => ?_
    refine (Checks.heeds (keeps_logAll (fun _ => rfl) trivial)).bind fun _ => ?_
    exact (heeds_log _).bind fun _ => heeds_pure _
  | readToVariable name selector what =>
    dsimp only [performRead]
    split
    · refine (checks_require ..).heeds.bind fun _ => ?_
      refine (checks_deadlineOf _).heeds.bind fun deadline => ?_
      refine (heeds_awaitElement _ _ _ _).bind fun e => ?_
      exact (heeds_log _).bind fun _ => heeds_pure _
    · exact heeds_refuseMissing _ _
  | shell command saveTo =>
    refine (checks_parameter ..).heeds.bind fun command => ?_
    exact (heeds_device _).bind fun _ => heeds_pure _
  | keyEvent keyCode =>
    refine (checks_parameter ..).heeds.bind fun code => ?_
    exact (heeds_device _).bind fun _ => heeds_pure _
  | subWorkflow | unsupported => exact (heeds_log _).bind fun _ => heeds_throw nofun

/-- The error of a step does not end the run by a cancellation. -/
def StepError.GoesOn (e : StepError) : Prop := ∀ id, e.toRunError id ≠ .cancelled

theorem StepError.goesOn_iff {e : StepError} :
    e.GoesOn ↔ e ≠ .cancelled ∧ e ≠ .aborted .cancelled := by
  unfold GoesOn
  cases e <;> simp [toRunError]

/-- A piece of a run does not end by a cancellation. -/
def Piece.Uncancelled : (x : Piece) → x.Result → Prop
  | .run .., _ => True
  | .walk .., r | .onward .., r => ∀ e, Prod.snd r = Except.error e → e ≠ .cancelled
  | .repetition .., r | .iteration .., r => ∀ e, Prod.snd r = Except.error e → e ≠ .cancelled
  | .attempt .., r => ∀ e, StepOutcome.error (Prod.snd r) = some e → e.GoesOn
  | .call .., r => ∀ e, Prod.snd r = Except.error e → e.GoesOn

variable {run : Session}

/-- No part of a run that is not told of a cancellation ends by one. -/
theorem Course.uncancelled {x : Piece} {t : List Exchange} {r : x.Result} (h : Course run x t r)
    (ht : Uncancelled t) : x.Uncancelled r := by
  induction h with
  | run => trivial
  | walk _ _ ih => exact ih ht
  | startless | forked | exhausted | lost => rintro e ⟨⟩ ⟨⟩
  | arrived | idle | last | returned | finished => rintro e ⟨⟩
  | halted | refused => exact absurd rfl (ht _ List.mem_cons_self)
  | broken _ _ _ ih =>
    rintro e ⟨⟩
    exact ih (List.forall_mem_cons.mp ht).2 _ rfl
  | stopped _ _ _ hend =>
    rintro e ⟨⟩
    unfold Session.endError? at hend
    split at hend
    · obtain ⟨cause, -, rfl⟩ := Option.map_eq_some_iff.mp hend
      rintro ⟨⟩
    · cases hend
  | onward _ _ _ _ _ _ ih =>
    obtain ⟨-, hrest⟩ := List.forall_mem_append.mp (List.forall_mem_cons.mp ht).2
    exact ih hrest
  | failed _ ih => exact ih ht
  | again _ _ _ _ _ ih => exact ih (List.forall_mem_append.mp ht).2
  | @fatal _ _ s _ _ _ _ _ t outcome _ _ hfatal ih =>
    rintro e ⟨⟩
    have hbody : Uncancelled t := fun x hx => ht x (by simp [Session.bracket, hx])
    cases hcause : outcome.error with
    | none => simp [Session.fatalError?, hcause] at hfatal
    | some cause =>
      rw [Session.fatalError?_eq_toRunError hcause hfatal]
      exact ih hbody cause hcause s.id
  | @bearable _ _ s _ _ _ _ _ _ _ _ whole =>
    have hlast : ¬ Exchange.Cancels ⟨.sleep s.postDelayMs.toNat, whole⟩ := ht _ (by simp)
    obtain rfl : whole = true := Bool.of_not_eq_false hlast
    rintro e ⟨⟩
  | nameless | tooDeep | storeless | unloaded | missing =>
    rintro e ⟨⟩ id ⟨⟩
  | thrown _ _ _ ih =>
    rintro e ⟨⟩
    exact ih ht _ rfl
  | @performed _ s p _ _ _ _ h =>
    intro e he
    have hnone := (Plan.Keeps.follows (s.modest_perform run.rig p.vars) h).2
    cases hnone.symm.trans he
  | @unperformed _ s p t _ _ h =>
    rintro e ⟨⟩
    have hown := (Plan.Keeps.follows (s.modest_perform run.rig p.vars) h).2
    refine StepError.goesOn_iff.mpr ⟨?_, ?_⟩
    · rintro rfl
      exact s.heeds_perform run.rig p.vars t ht h
    · rintro rfl
      exact hown
  | @unfinished _ _ _ _ _ _ t e _ _ _ ih =>
    have hcalled : Uncancelled t := fun x hx => ht x (by simp [hx])
    have hne : e ≠ .cancelled := ih hcalled e rfl
    rintro e ⟨⟩
    unfold Session.asStepError
    split
    · exact absurd rfl hne
    · split
      · exact fun _ => hne
      · rintro id ⟨⟩

/-- What is punctual is not cancelled. -/
theorem Punctual.uncancelled {now : Nat} {t : List TimedExchange} (h : Punctual now t) :
    Uncancelled (exchangesOf t) := by
  induction t generalizing now with
  | nil => exact List.forall_mem_nil _
  | cons x t ih =>
    obtain ⟨hx, ht⟩ := h
    refine List.forall_mem_cons.mpr ⟨?_, ih ht⟩
    obtain ⟨⟨q, answer⟩, tookMs⟩ := x
    cases q with
    | isCancelled => exact fun hcancels => Bool.noConfusion (hcancels.symm.trans hx.1)
    | sleep ms => exact fun hcancels => Bool.noConfusion (hcancels.symm.trans hx.1)
    | log _ | emit _ | clock | date | perform _ | play _ | look | load _ => exact id

end DeviceFlow
