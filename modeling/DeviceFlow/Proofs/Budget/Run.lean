import DeviceFlow.Proofs.Budget.Await
import DeviceFlow.Proofs.Budget.Count
import DeviceFlow.Proofs.Budget.Limit
import DeviceFlow.Proofs.Events.Run

/-!
# The budget of a run

The main statement about the limit on the steps. Every run comes to its end, by rules that know
no bound but this limit and the deadlines of its steps; the steps of all levels are counted
together, up to the limit and no further; the count is that of the first iterations that are
told, but for a run that is cancelled right before one; and a run fails because of the limit only
where there is a next step and nothing left to spend on it.
-/

namespace DeviceFlow

/-- What the limit on the steps means for a run that has ended. -/
structure Session.KeepsBudget (run : Session) (w : Workflow) (vars : Variables)
    (t : List Exchange) (r : RunRecord) : Prop where
  /-- The run has taken a course by the rules. -/
  course : Course run (.run w vars) t r
  within : r.steps ≤ run.rig.settings.maxSteps
  /-- The run is cancelled in the pause before the first iteration of a step. -/
  refused : (Piece.run w vars).Meets run Refusal t → r.steps = firsts t + 1
  exact : ¬ (Piece.run w vars).Meets run Refusal t → r.steps = firsts t
  /-- The run fails because of the limit. -/
  exhausted : ∀ n, r.error = some (RunError.stepBudgetExceeded n).message →
    n = run.rig.settings.maxSteps ∧ r.steps = run.rig.settings.maxSteps ∧
      (Piece.run w vars).Meets run (Exhaustion run) t

namespace Session

variable {run : Session} {w : Workflow} {vars : Variables} {t : List Exchange} {r : RunRecord}

theorem status_of_error {text : String} (h : Course run (.run w vars) t r)
    (herror : r.error = some text) : r.status = .error := by
  cases h with
  | @run _ _ _ _ _ _ _ _ _ result =>
    cases result with
    | ok value => cases herror
    | error e =>
      cases e with
      | cancelled => cases herror
      | _ => rfl

theorem keepsBudget (h : (run.execute w vars).Ends t r) : run.KeepsBudget w vars t r := by
  have hcourse := course_execute h
  refine ⟨hcourse, hcourse.stepsAfter_le (Nat.zero_le _), hcourse.steps_run.1,
    hcourse.steps_run.2, ?_⟩
  intro n herror
  exact hcourse.exhausts (Nat.zero_le _) ⟨status_of_error hcourse herror, herror⟩

/-- Every run ends and keeps its budget; and a step that awaits an element does so for as long as
    it takes. -/
theorem budget_of_execute (run : Session) (w : Workflow) (vars : Variables) :
    (∀ reply : List Exchange → (q : Request) → q.Answer,
      ∃ t r, (run.execute w vars).Ends t r ∧ Plan.AnsweredBy reply t) ∧
    (∀ t r, (run.execute w vars).Ends t r → run.KeepsBudget w vars t r) ∧
    ∀ (selector : Selector) (limit start : Nat) (t : List Exchange)
        (result : Except StepError Element),
      0 < run.rig.settings.pollIntervalMs → Timely start t →
        ((awaitElement run.rig selector (some (start + limit))
            (greatestLooks run.rig (some limit))).run.Ends t result ↔
          Awaits run.rig selector (start + limit) t result) :=
  ⟨(run.execute w vars).exists_ends_answeredBy, fun _ _ h => keepsBudget h,
    fun _ _ _ _ _ hpoll htimely => ends_awaitElement_greatestLooks_iff hpoll htimely⟩

/-- A run that is cancelled in the pause before its first step. -/
theorem ends_rounds_of_refusal :
    ∃ t r, ((⟨threeSteps.rig, "d"⟩ : Session).execute rounds Dict.empty).Ends t r ∧
      (Piece.run rounds Dict.empty).Meets ⟨threeSteps.rig, "d"⟩ Refusal t ∧
      r.status = .cancelled := by
  let midnight : Timestamp := ⟨2024, 1, 1, 0, 0, 0, 0⟩
  let pause : Step := (Step.new "pause" (.wait (some 5))).andThen "call"
  have hends : ((⟨threeSteps.rig, "d"⟩ : Session).execute rounds Dict.empty).Ends _ _ :=
    .step (q := .date) midnight <|
    .step (q := .clock) (0 : Nat) <|
    .step (q := .log _) () <|
    .step (q := .emit _) () <|
    .step (q := .isCancelled) false <|
    .step (q := .sleep _) false <|
    .step (q := .clock) (0 : Nat) <|
    .step (q := .log _) () <|
    .step (q := .emit _) () <|
    .step (q := .date) midnight <| .here _
  have hreaches : Reaches ⟨threeSteps.rig, "d"⟩ (.run rounds Dict.empty) _
      (.iteration 1 rounds pause 1 _) :=
    .head (.run _ _ midnight 0) <|
    .head (.walk rfl) <|
    .head (.onward (s := pause) (by decide) rfl) <|
    .head .repetition <| .refl _
  exact ⟨_, _, hends, ⟨_, _, _, hreaches, rfl, .intro ..⟩, rfl⟩

/-- A run that calls itself until its three steps are used up, the same run when it is cancelled
    in its first pause, and a step that sees nothing on the screen until it is too late. -/
theorem budget_of_rounds :
    (∃ t r, ((⟨threeSteps.rig, "d"⟩ : Session).execute rounds Dict.empty).Ends t r ∧
      r.error = some (RunError.stepBudgetExceeded 3).message ∧ r.steps = 3 ∧ firsts t = 3 ∧
      (Piece.run rounds Dict.empty).Meets ⟨threeSteps.rig, "d"⟩
        (Exhaustion ⟨threeSteps.rig, "d"⟩) t) ∧
    (∃ t r, ((⟨threeSteps.rig, "d"⟩ : Session).execute rounds Dict.empty).Ends t r ∧
      r.status = .cancelled ∧ r.steps = firsts t + 1) ∧
    ∃ t result, (awaitElement threeSteps.rig ⟨.text, "ok"⟩ (some (7 + 600))
        (greatestLooks threeSteps.rig (some 600))).run.Ends t result ∧ t.length = 5 := by
  let run : Session := ⟨threeSteps.rig, "d"⟩
  obtain ⟨_, hkeeps, hawaits⟩ := budget_of_execute run rounds Dict.empty
  refine ⟨?_, ?_, ?_⟩
  · have hends := threeSteps.ends_history "d" (run.execute rounds Dict.empty) (.opening .empty)
    have herror : (threeSteps.carryOut "d" (run.execute rounds Dict.empty)
        (.opening .empty)).2.error = some (RunError.stepBudgetExceeded 3).message := by
      decide +kernel
    obtain ⟨_, hsteps, hmet⟩ := (hkeeps _ _ hends).exhausted 3 herror
    exact ⟨_, _, hends, herror, hsteps, by decide +kernel, hmet⟩
  · obtain ⟨t, r, hends, hmet, hstatus⟩ := ends_rounds_of_refusal
    exact ⟨t, r, hends, hstatus, (hkeeps t r hends).refused hmet⟩
  · have hnone : (⟨[]⟩ : Screen).find? ⟨.text, "ok"⟩ = none := rfl
    have hlate : Awaits run.rig ⟨.text, "ok"⟩ (7 + 600) _ _ :=
      .expired hnone (by decide : 7 + 600 ≤ 608)
    have hcourse := hlate.again hnone (by decide : 8 < 7 + 600)
    exact ⟨_, _, (hawaits _ 600 7 _ _ (by decide) (by simp [Timely]; decide)).mpr hcourse, rfl⟩

end Session

end DeviceFlow
