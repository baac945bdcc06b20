import DeviceFlow.Proofs.Failure.Cause
import DeviceFlow.Proofs.Failure.Walk
import DeviceFlow.Proofs.Nesting.Piece

/-!
# Fatal errors end the run

The main statement about fatal errors: when the execution of a step on any level comes to a
fatal error of its own, or a walk on any level fails by its structure or by the limit on steps,
the run does not act any more and ends with just this error, however the steps around it are
wired.
-/

namespace DeviceFlow

/-- An error of a walk that no step is the cause of. -/
def RunError.IsStructural : RunError → Prop
  | .noStartStep _ | .multipleStartSteps .. | .corruptGraph .. | .stepBudgetExceeded _ => True
  | _ => False

namespace Piece

/-- A piece has failed with an error of the run, as the piece around it sees it. -/
def FailsWith : (x : Piece) → x.Result → RunError → Prop
  | .run .., r, e => RunRecord.FailsWith r e
  | .walk .., r, e => Session.FailsWith r e
  | .onward .., r, e => Session.FailsWith r e
  | .repetition .., r, e => Session.FailsWith r e
  | .iteration .., r, e => Session.FailsWith r e
  | .attempt _ s _, r, e => Session.EndsRunWith s r e
  | .call .., r, e => Session.FailsWith r (.aborted e)

/-- A piece is the first to fail with a fatal error of the run: it is the execution of a step
    with an error that is not handed on from a call, or a walk with an error that no step is the
    cause of. -/
inductive BreaksOff : (x : Piece) → x.Result → RunError → Prop where
  | attempt {levels : Nat} {s : Step} {p q : Progress} {outcome : StepOutcome} {e : StepError}
      (herror : outcome.error = some e) (hfatal : e.isFatal = true)
      (hown : ∀ cause, e ≠ .aborted cause) :
      BreaksOff (.attempt levels s p) (q, outcome) (.stepFailed s.id e)
  | walk {levels : Nat} {w : Workflow} {p q : Progress} {e : RunError} (h : e.IsStructural) :
      BreaksOff (.walk levels w p) (q, .error e) e

theorem BreaksOff.isFatal {x : Piece} {r : x.Result} {e : RunError} (h : x.BreaksOff r e) :
    e.isFatal = true := by
  cases h with
  | attempt herror hfatal hown => exact hfatal
  | walk h =>
    cases e with
    | noStartStep | multipleStartSteps | corruptGraph | stepBudgetExceeded => rfl
    | alreadyRunning | stepFailed | cancelled => exact h.elim

theorem BreaksOff.failsWith {x : Piece} {r : x.Result} {e : RunError} (h : x.BreaksOff r e) :
    x.FailsWith r e := by
  cases h with
  | @attempt levels s p q outcome e herror hfatal hown =>
    show Session.fatalError? s outcome = some _
    unfold Session.fatalError?
    cases e with
    | cancelled => simp [StepError.isFatal] at hfatal
    | aborted cause => exact absurd rfl (hown cause)
    | _ => simp [herror, hfatal]
  | walk h => rfl

end Piece

variable {run : Session}

/-- Every piece hands on the fatal errors of the pieces that it begins with. -/
theorem Begins.handsOn {x y : Piece} {t : List Exchange} (h : Begins run x t y) :
    (x.plan run).HandsOn t (y.plan run) x.FailsWith y.FailsWith := by
  cases h with
  | run w vars startedAt startedMs => exact Session.handsOn_execute w vars startedAt startedMs
  | walk h => exact Session.handsOn_walk h
  | onward hroom htarget => exact Session.handsOn_walkFrom hroom htarget
  | next hroom htarget hends hend => exact Session.handsOn_walkFrom_next hroom htarget hends hend
  | repetition => exact Session.handsOn_iterate ..
  | again hends hleft hbreak => exact Session.handsOn_iterate_again hends hleft hbreak
  | iteration levels w s number p startedAt => exact Session.handsOn_iterateOnce ..
  | attempt hkind hid => exact Session.handsOn_executeStep hkind hid
  | call child hstore hdepth => exact Session.handsOn_call hstore hdepth

/-- Every piece hands on the fatal errors of all pieces that it contains. -/
theorem Reaches.handsOn {x y : Piece} {t : List Exchange} (h : Reaches run x t y) :
    (x.plan run).HandsOn t (y.plan run) x.FailsWith y.FailsWith := by
  induction h with
  | refl x => exact .refl _
  | head h _ ih => exact h.handsOn.trans ih

namespace Session

/-- A run does not act any more after a piece of it has broken off, and ends with the error of
    this piece; and no walk fails because of a step that was cancelled, or that only hands an
    error on. -/
theorem fatal_error_ends_run (run : Session) (w : Workflow) (vars : Variables) :
    (∀ {x : Piece} {b t u : List Exchange} {result : x.Result} {e : RunError}
        {rest : Plan RunRecord},
      Reaches run (.run w vars) b x → (x.plan run).Ends t result → x.BreaksOff result e →
      (run.execute w vars).Follows (b ++ (t ++ u)) rest →
        (∀ y ∈ u, y.request.acts = false) ∧
          ∀ r, rest = .done r → r.status = .error ∧ r.error = some e.message) ∧
    ∀ {levels : Nat} {child : Workflow} {p q : Progress} {t : List Exchange} {id : String}
        {cause : StepError},
      (run.walk (run.call levels) child p).Ends t (q, .error (.stepFailed id cause)) →
        cause ≠ .cancelled ∧ ∀ inner, cause ≠ .aborted inner := by
  constructor
  · intro x b t u result e rest hreaches hends hbreaks hfollows
    exact hreaches.handsOn.follows hbreaks.isFatal hends hbreaks.failsWith hfollows
  · intro levels child p q t id cause hends
    have hplain : (RunError.stepFailed id cause).IsPlain :=
      (gives_walk (plainCall_call levels) child p).ends hends
    cases cause with
    | cancelled | aborted => exact hplain.elim
    | _ => simp

/-- A tap without a place on the screen, which is wired to itself. -/
def placelessTap : Step :=
  { (Step.new "tap" (.tap (some 1) none)).onFailure "tap" with onError := .proceed }

/-- A repeated call of a workflow, which is wired to itself. -/
def insistentCall : Step :=
  { (Step.new "call" (.subWorkflow (some "misconfigured"))).onFailure "call" with
    onError := .proceed, loopCount := 3 }

def misconfigured : Workflow :=
  .ofSteps "misconfigured" [(Step.new "start" .start).andThen "tap", placelessTap]

def persistent : Workflow :=
  .ofSteps "persistent" [(Step.new "start" .start).andThen "call", insistentCall]

/-- A run with nothing but a store. -/
def storeOnly : Session := ⟨⟨.default, false, false, true⟩, "d"⟩

theorem reaches_placelessTap :
    ∃ b p, Reaches storeOnly (.run persistent Dict.empty) b (.attempt 9 placelessTap p) :=
  ⟨_, _, .head (.run _ _ ⟨2024, 1, 1, 0, 0, 0, 0⟩ 0) <|
    .head (.walk rfl) <|
    .head (.onward (s := insistentCall) (by decide) rfl) <|
    .head .repetition <|
    .head (.iteration _ _ _ _ _ 0) <|
    .head (.attempt rfl rfl) <|
    .head (.call misconfigured rfl rfl) <|
    .head (.walk rfl) <|
    .head (.onward (s := placelessTap) (by decide) rfl) <|
    .head .repetition <|
    .head (.iteration _ _ _ _ _ 0) <| .refl _⟩

/-- The tap without a place ends the run, which is wired to call it again and again; the walk
    that fails because of it names just this error. -/
theorem fatal_error_of_placelessTap :
    (∃ t r, (storeOnly.execute persistent Dict.empty).Ends t r ∧ r.status = .error ∧
      r.error = some "step 'tap' failed: tap step is missing parameters: y") ∧
    ∃ t p cause, (storeOnly.walk (storeOnly.call 9) misconfigured ⟨Dict.empty, 0⟩).Ends t
      (p, .error (.stepFailed "tap" cause)) ∧ cause ≠ .cancelled ∧
        ∀ inner, cause ≠ .aborted inner := by
  have htheorem := fatal_error_ends_run storeOnly persistent Dict.empty
  constructor
  · obtain ⟨b, p, hreaches⟩ := reaches_placelessTap
    let result : Progress × StepOutcome := (p, .failed (.missingParameters "tap" ["y"]))
    have hends : (Piece.plan storeOnly (.attempt 9 placelessTap p)).Ends [] result := .here _
    have hbreaks : (Piece.attempt 9 placelessTap p).BreaksOff result _ :=
      .attempt rfl rfl (by simp)
    -- The run goes on with some remainder after the tap, and the remainder comes to an end.
    obtain ⟨rest, hrest, _⟩ := hreaches.handsOn
    obtain ⟨u, r, hu⟩ := (rest result).exists_ends
    have hrun := hrest.append ((hends.bind rest).append hu)
    obtain ⟨_, hend⟩ := htheorem.1 hreaches hends hbreaks hrun
    exact ⟨_, r, hrun, hend r rfl⟩
  · have hends : (storeOnly.walk (storeOnly.call 9) misconfigured ⟨Dict.empty, 0⟩).Ends _
        (_, .error (.stepFailed "tap" _)) :=
      .step (q := .isCancelled) false <|
      .step (q := .sleep _) true <|
      .step (q := .emit _) () <|
      .step (q := .log _) () <|
      .step (q := .clock) (0 : Nat) <|
      .step (q := .clock) (0 : Nat) <|
      .step (q := .emit _) () <| .here _
    exact ⟨_, _, _, hends, htheorem.2 hends⟩

end Session

end DeviceFlow
