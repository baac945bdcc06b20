import DeviceFlow.Proofs.Cancellation.Perform
import DeviceFlow.Run.Walk

/-!
# Runs yield to a cancellation

A cancellation that halts a step shows at the latest in the pause after it, and then ends one
iteration, one walk and one call after the other as a cancellation. By induction on the
levels of nesting, the run that is cancelled in the midst of a call, or told of its cancellation,
does not act any more, and ends as a cancelled run without an error.
-/

namespace DeviceFlow

namespace Session

open Plan

variable (run : Session)

/-- Whether a plan has ended with the cancellation of the run. -/
def IsCancelled {ε α : Type} (cancelled : ε) (r : Progress × Except ε α) : Prop :=
  r.2 = .error cancelled

/-- An outcome whose error, if it has one, does not end the run by itself. -/
def Bearable (r : Progress × StepOutcome) : Prop :=
  ∀ e, r.2.error = some e → e.isFatal = false

/-- A call that is halted ends as a cancellation. -/
def YieldingCall (call : Call) : Prop :=
  ∀ id p, (call id p).Yields (IsCancelled StepError.cancelled)

variable {run} {call : Call}

theorem yields_executeStep (hcall : YieldingCall call) (s : Step) (p : Progress) :
    (run.executeStep call s p).Yields Bearable := by
  unfold executeStep
  split
  · split
    · exact yields_done
    · refine (hcall _ p).bind ?_ ?_
      · rintro ⟨q, r⟩ hr
        obtain rfl : r = .error .cancelled := hr
        refine subdued_done fun e he => ?_
        cases he
        rfl
      · rintro ⟨q, r⟩
        cases r with
        | ok u => exact yields_done
        | error e => exact yields_done
  · refine (Step.yields_perform run.rig s p.vars).bind ?_ ?_
    · intro r hr
      cases r with
      | ok effect =>
        refine subdued_done fun e he => ?_
        have hnone : effect.1.error = none := hr
        simp [hnone] at he
      | error e =>
        refine subdued_done fun e' he => ?_
        cases he
        exact hr
    · intro r
      cases r with
      | ok effect => exact yields_done
      | error e => exact yields_done

/-- An outcome that a run can bear ends it at once only as a cancellation. -/
theorem fatalError?_of_bearable {s : Step} {r : Progress × StepOutcome} (h : Bearable r) :
    fatalError? s r.2 = none ∨ fatalError? s r.2 = some .cancelled := by
  unfold fatalError?
  split
  · exact .inl rfl
  · exact .inr rfl
  · rename_i cause he
    have hfatal := h _ he
    simp [StepError.isFatal] at hfatal
  · rename_i e _ _ he
    rw [h e he]
    exact .inl rfl

theorem subdued_reportFailure (s : Step) (number : Nat) (outcome : StepOutcome) :
    (reportFailure s number outcome).Subdued fun _ => True := by
  unfold reportFailure
  split
  · exact subdued_log _
  · exact subdued_done trivial

theorem yields_reportFailure (s : Step) (number : Nat) (outcome : StepOutcome)
    {Q : Unit → Prop} : (reportFailure s number outcome).Yields Q := by
  unfold reportFailure
  split
  · exact yields_log _
  · exact yields_done

theorem yields_bracketStep (hcall : YieldingCall call) (w : Workflow) (s : Step) (number : Nat)
    (p : Progress) : (run.bracketStep call w s number p).Yields Bearable := by
  unfold bracketStep
  refine (yields_emit _).bind_of_prompt fun _ => ?_
  refine (yields_log _).bind_of_prompt fun _ => ?_
  refine yields_clock.bind_of_prompt fun startedAt => ?_
  refine (yields_executeStep hcall s p).bind ?_ ?_
  · intro r hr
    refine subdued_clock.bind fun endedAt _ => ?_
    refine (subdued_emit rfl).bind fun _ _ => ?_
    exact subdued_done hr
  · intro r
    refine yields_clock.bind_of_prompt fun endedAt => ?_
    exact (yields_emit _).bind_of_prompt fun _ => yields_done

/-- Whatever a halted step comes to, its iteration ends as a cancellation: if the step
    does not tell it, the pause after the step is refused. -/
theorem yields_iterateOnce (hcall : YieldingCall call) (w : Workflow) (s : Step) (number : Nat)
    (p : Progress) :
    (run.iterateOnce call w s number p).Yields (IsCancelled RunError.cancelled) := by
  unfold iterateOnce
  refine (yields_sleep _).bind ?_ fun rested => ?_
  · rintro rested rfl
    exact subdued_done rfl
  · cases rested with
    | false => exact yields_done
    | true =>
      refine (yields_bracketStep hcall w s number p).bind ?_ ?_
      · intro r hr
        rcases fatalError?_of_bearable (s := s) hr with hnone | hsome
        · simp only [hnone]
          refine (subdued_reportFailure s number r.2).bind fun _ _ => ?_
          refine (subdued_sleep _).bind ?_
          rintro rested rfl
          exact subdued_done rfl
        · simp only [hsome]
          exact subdued_done rfl
      · intro r
        dsimp only
        split
        · exact yields_done
        · refine (yields_reportFailure s number r.2).bind_of_prompt fun _ => ?_
          refine (yields_sleep _).bind ?_ fun rested => ?_
          · rintro rested rfl
            exact subdued_done rfl
          · cases rested with
            | true => exact yields_done
            | false => exact yields_done

theorem yields_iterate (hcall : YieldingCall call) (w : Workflow) (s : Step)
    (left number : Nat) (p : Progress) :
    (run.iterate call w s left number p).Yields (IsCancelled RunError.cancelled) := by
  induction left generalizing number p with
  | zero => exact yields_done
  | succ left ih =>
    unfold iterate
    refine (yields_iterateOnce hcall w s number p).bind ?_ ?_
    · rintro ⟨q, r⟩ hr
      obtain rfl : r = .error .cancelled := hr
      exact subdued_done rfl
    · rintro ⟨q, r⟩
      cases r with
      | error e => exact yields_done
      | ok outcome =>
        dsimp only
        split
        · exact yields_done
        · exact ih (number + 1) q

/-- A run that is halted between two steps is told of its cancellation, which keeps it from the
    next one. -/
theorem yields_obstacle (p : Progress) :
    (run.obstacle p).Yields fun blocked => blocked = some .cancelled := by
  unfold obstacle
  refine yields_isCancelled.bind ?_ fun cancelled => ?_
  · rintro cancelled rfl
    exact subdued_done rfl
  · split
    · exact yields_done
    · split
      · exact yields_done
      · exact yields_done

theorem yields_walkFrom (hcall : YieldingCall call) (w : Workflow) (room : Nat)
    (id : Option String) (p : Progress) :
    (run.walkFrom call w room id p).Yields (IsCancelled RunError.cancelled) := by
  induction room generalizing id p with
  | zero =>
    unfold walkFrom
    cases id with
    | none => exact (yields_log _).bind_of_prompt fun _ => yields_done
    | some id =>
      refine (yields_obstacle p).bind ?_ fun blocked => yields_done
      rintro blocked rfl
      exact subdued_done rfl
  | succ room ih =>
    unfold walkFrom
    cases id with
    | none => exact (yields_log _).bind_of_prompt fun _ => yields_done
    | some id =>
      refine (yields_obstacle p).bind ?_ fun blocked => ?_
      · rintro blocked rfl
        exact subdued_done rfl
      · split
        · exact yields_done
        · split
          · exact yields_done
          · refine (yields_iterate hcall w _ _ 1 _).bind ?_ ?_
            · rintro ⟨q, r⟩ hr
              obtain rfl : r = .error .cancelled := hr
              exact subdued_done rfl
            · rintro ⟨q, r⟩
              cases r with
              | error e => exact yields_done
              | ok outcome =>
                dsimp only
                split
                · exact yields_done
                · exact ih _ q

theorem yields_walk (hcall : YieldingCall call) (w : Workflow) (p : Progress) :
    (run.walk call w p).Yields (IsCancelled RunError.cancelled) := by
  unfold walk
  dsimp only
  split
  · exact yields_walkFrom hcall w _ _ _
  · exact yields_done
  · exact yields_done

/-- Calls yield on every level: a halted walk on the level below ends as a cancellation,
    and a cancellation is handed on as it is. -/
theorem yields_call (levels : Nat) : YieldingCall (run.call levels) := by
  induction levels with
  | zero => exact fun id p => yields_done
  | succ levels ih =>
    intro id p
    unfold Session.call
    split
    · exact yields_done
    · refine (yields_request_of_prompt fun _ => rfl).bind_of_prompt ?_
      intro answer
      split
      · exact yields_done
      · exact yields_done
      · refine (yields_log _).bind_of_prompt fun _ => ?_
        refine (yields_walk ih _ p).bind ?_ ?_
        · rintro ⟨q, r⟩ hr
          obtain rfl : r = .error .cancelled := hr
          exact subdued_done rfl
        · rintro ⟨q, r⟩
          cases r with
          | ok u => exact (yields_log _).bind_of_prompt fun _ => yields_done
          | error e => exact yields_done

/-- A run that is halted ends as a cancelled run, without an error. -/
theorem yields_execute (w : Workflow) (vars : Variables) :
    (run.execute w vars).Yields fun r => r.status = .cancelled ∧ r.error = none := by
  unfold execute
  refine yields_date.bind_of_prompt fun startedAt => ?_
  refine yields_clock.bind_of_prompt fun startedMs => ?_
  refine (yields_log _).bind_of_prompt fun _ => ?_
  refine (yields_emit _).bind_of_prompt fun _ => ?_
  refine (yields_walk (yields_call _) w _).bind ?_ ?_
  · rintro ⟨q, r⟩ hr
    obtain rfl : r = .error .cancelled := hr
    refine subdued_clock.bind fun endedMs _ => ?_
    refine Subdued.bind (P := fun _ => True) ?_ fun _ _ => ?_
    · exact (subdued_log _).bind fun _ _ => subdued_emit rfl
    · exact subdued_date.bind fun finishedAt _ => subdued_done ⟨rfl, rfl⟩
  · rintro ⟨q, r⟩
    refine yields_clock.bind_of_prompt fun endedMs => ?_
    refine Yields.bind_of_prompt ?_ fun _ => ?_
    · unfold announceEnd
      split
      · exact (yields_log _).bind_of_prompt fun _ => yields_emit _
      · exact (yields_log _).bind_of_prompt fun _ => yields_emit _
    · exact yields_date.bind_of_prompt fun finishedAt => yields_done

end Session

end DeviceFlow
