import DeviceFlow.Proofs.Trace.Perform

/-!
# Causes of failures

A walk that fails because of a step names an error of that step which says what has gone wrong:
never that the run was cancelled, and never that a called workflow has ended the run. A
cancellation ends a walk as such, and what has ended a called workflow ends the walk as it is.
-/

namespace DeviceFlow

/-- An error of a run whose cause, if it is the failure of a step, is neither a cancellation nor
    an error that has been handed on. -/
def RunError.IsPlain : RunError → Prop
  | .stepFailed _ .cancelled | .stepFailed _ (.aborted _) => False
  | _ => True

/-- An error of a step that hands on a plain error, if it hands on one at all. -/
def StepError.HandsOnPlain : StepError → Prop
  | .aborted cause => cause.IsPlain
  | _ => True

namespace Session

open Plan

variable {run : Session} {call : Call}

/-- A call that hands on plain errors only. -/
def PlainCall (call : Call) : Prop :=
  ∀ id p, (call id p).Gives fun r => ∀ e, r.2 = .error e → e.HandsOnPlain

/-- A walk fails with plain errors only, and an outcome that a walk goes on with ends no run. -/
def PlainEnd {α : Type} (P : α → Prop) (r : Progress × Except RunError α) : Prop :=
  match r.2 with
  | .ok a => P a
  | .error e => e.IsPlain

theorem StepError.handsOnPlain_of_isOwn {e : StepError} (h : e.IsOwn) : e.HandsOnPlain := by
  cases e with
  | aborted cause => exact h.elim
  | _ => trivial

theorem gives_executeStep (hcall : PlainCall call) (s : Step) (p : Progress) :
    (run.executeStep call s p).Gives
      fun r => ∀ e, r.2.error = some e → e.HandsOnPlain := by
  unfold executeStep
  split
  · split
    · rintro e ⟨⟩
      trivial
    · refine (hcall _ p).bind ?_
      rintro ⟨q, r⟩ hr
      cases r with
      | ok u => rintro e ⟨⟩
      | error e =>
        rintro e ⟨⟩
        exact hr _ rfl
  · have hperform := Step.modest_perform run.rig s p.vars
    refine (Keeps.mono hperform (fun _ _ => trivial) fun _ hr => hr).bind ?_
    intro r hr
    cases r with
    | ok effect =>
      intro e he
      have hnone : effect.1.error = none := hr
      simp [hnone] at he
    | error e =>
      rintro e ⟨⟩
      exact StepError.handsOnPlain_of_isOwn hr

theorem isPlain_of_fatalError? {s : Step} {outcome : StepOutcome} {e : RunError}
    (hplain : ∀ e, outcome.error = some e → e.HandsOnPlain)
    (h : fatalError? s outcome = some e) : e.IsPlain := by
  unfold fatalError? at h
  split at h
  · simp at h
  · cases h
    trivial
  · rename_i cause hcause
    cases h
    exact hplain _ hcause
  · rename_i cause hcancelled haborted hcause
    split at h
    · cases h
      cases cause with
      | cancelled => exact hcancelled rfl
      | aborted inner => exact haborted inner rfl
      | _ => trivial
    · simp at h

/-- The error with which a walk ends after its last step is plain, as that step has ended no
    run. -/
theorem isPlain_of_endError? {s : Step} {outcome : StepOutcome} {e : RunError}
    (hbearable : fatalError? s outcome = none) (h : endError? s outcome = some e) :
    e.IsPlain := by
  unfold endError? at h
  split at h
  · obtain ⟨cause, hcause, rfl⟩ := Option.map_eq_some_iff.mp h
    unfold fatalError? at hbearable
    cases cause with
    | cancelled => simp [hcause] at hbearable
    | aborted inner => simp [hcause] at hbearable
    | _ => trivial
  · simp at h

theorem gives_bracketStep {Q : Progress × StepOutcome → Prop} {s : Step} {p : Progress}
    (h : (run.executeStep call s p).Gives Q) (w : Workflow) (number : Nat) :
    (run.bracketStep call w s number p).Gives Q := by
  unfold bracketStep
  simp only [keeps_bind, keeps_emit, keeps_log, keeps_clock, true_and]
  exact fun startedAt => h.imp fun r hr endedAt => hr

theorem gives_iterateOnce (hcall : PlainCall call) (w : Workflow) (s : Step) (number : Nat)
    (p : Progress) :
    (run.iterateOnce call w s number p).Gives
      (PlainEnd fun outcome => fatalError? s outcome = none) := by
  unfold iterateOnce
  simp only [keeps_bind, keeps_sleep, true_and]
  intro rested
  cases rested with
  | false => trivial
  | true =>
    refine (gives_bracketStep (gives_executeStep hcall s p) w number).bind ?_
    rintro ⟨q, outcome⟩ hplain
    dsimp only
    split
    · rename_i e he
      exact isPlain_of_fatalError? hplain he
    · rename_i hnone
      refine (keeps_reportFailure (fun _ => trivial) s number outcome).bind fun _ _ => ?_
      simp only [keeps_bind, keeps_sleep, true_and]
      intro rested
      cases rested with
      | false => trivial
      | true => exact hnone

theorem gives_iterate (hcall : PlainCall call) (w : Workflow) (s : Step) (left number : Nat)
    (p : Progress) :
    (run.iterate call w s left number p).Gives
      (PlainEnd fun outcome => fatalError? s outcome = none) := by
  induction left generalizing number p with
  | zero => exact keeps_done.mpr rfl
  | succ left ih =>
    unfold iterate
    refine (gives_iterateOnce hcall w s number p).bind ?_
    rintro ⟨q, r⟩ hr
    cases r with
    | error e => exact hr
    | ok outcome =>
      dsimp only
      split
      · exact hr
      · exact ih _ _

theorem gives_obstacle (p : Progress) :
    (run.obstacle p).Gives fun r => ∀ e, r = some e → e.IsPlain := by
  unfold obstacle
  simp only [keeps_bind, keeps_isCancelled, true_and]
  intro cancelled
  split
  · rintro e ⟨⟩
    trivial
  · split
    · rintro e ⟨⟩
      trivial
    · rintro e ⟨⟩

theorem gives_walkFrom (hcall : PlainCall call) (w : Workflow) (room : Nat)
    (id : Option String) (p : Progress) :
    (run.walkFrom call w room id p).Gives (PlainEnd fun _ => True) := by
  induction room generalizing id p with
  | zero =>
    unfold walkFrom
    cases id with
    | none => exact keeps_bind.mpr (keeps_log.mpr ⟨trivial, trivial⟩)
    | some id =>
      refine (gives_obstacle p).bind ?_
      intro blocked hblocked
      cases blocked with
      | none => trivial
      | some e => exact hblocked e rfl
  | succ room ih =>
    unfold walkFrom
    cases id with
    | none => exact keeps_bind.mpr (keeps_log.mpr ⟨trivial, trivial⟩)
    | some id =>
      refine (gives_obstacle p).bind ?_
      intro blocked hblocked
      cases blocked with
      | some e => exact hblocked e rfl
      | none =>
        dsimp only
        split
        · trivial
        · refine (gives_iterate hcall w _ _ 1 _).bind ?_
          rintro ⟨q, r⟩ hr
          cases r with
          | error e => exact hr
          | ok outcome =>
            dsimp only
            split
            · rename_i e he
              exact isPlain_of_endError? hr he
            · exact ih _ q

theorem gives_walk (hcall : PlainCall call) (w : Workflow) (p : Progress) :
    (run.walk call w p).Gives (PlainEnd fun _ => True) := by
  unfold walk
  dsimp only
  split
  · exact gives_walkFrom hcall w _ _ _
  · trivial
  · trivial

/-- Calls hand on plain errors on every level, as the walks on the level below fail with such
    errors only. -/
theorem plainCall_call (levels : Nat) : PlainCall (run.call levels) := by
  induction levels with
  | zero =>
    rintro id p e ⟨⟩
    trivial
  | succ levels ih =>
    intro id p
    unfold Session.call
    split
    · rintro e ⟨⟩
      trivial
    · refine Keeps.bind (keeps_request.mpr ⟨trivial, fun _ => trivial⟩) fun answer _ => ?_
      split
      · rintro e ⟨⟩
        trivial
      · rintro e ⟨⟩
        trivial
      · simp only [keeps_bind, keeps_log, true_and]
        refine (gives_walk ih _ p).imp ?_
        rintro ⟨q, r⟩ hr
        cases r with
        | ok u => exact keeps_bind.mpr (keeps_log.mpr ⟨trivial, by rintro e ⟨⟩⟩)
        | error e =>
          rintro e' ⟨⟩
          unfold asStepError
          split
          · trivial
          · split
            · exact hr
            · trivial

end Session

end DeviceFlow
