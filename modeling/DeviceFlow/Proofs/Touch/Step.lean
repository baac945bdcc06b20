import DeviceFlow.Proofs.Nesting.Adequate
import DeviceFlow.Proofs.Touch.Attempt

/-!
# What a step touches

An iteration of a step that calls no workflow makes at most one call of the device or of a recorded
script, and none after it has been refused. Only a step that reads an element, and a condition on an
element, look at the screen. When an iteration fails, no variable has changed.
-/

namespace DeviceFlow

/-- The requests that reach beyond the run in an iteration of a step that is not refused. -/
def StepKind.Touches (kind : StepKind) (requests : List Request) : Prop :=
  match kind with
  | .start | .wait _ | .setVariable .. => requests = []
  | .tap .. | .swipe .. | .element .. | .app .. | .shell .. | .keyEvent _ =>
    ∃ call, requests = [.perform call]
  | .script _ => ∃ script, requests = [.play script]
  | .branch condition .. =>
    requests =
      if condition.bind Condition.ofText? = some .variableEquals then [] else [.look]
  | .readToVariable .. => ∃ n, requests = List.replicate (n + 1) .look
  -- Neither kind is performed.
  | .subWorkflow _ | .unsupported => False

/-- Steps of some kinds look at the screen. -/
def StepKind.Looks : StepKind → Prop
  | .branch condition .. => condition.bind Condition.ofText? ≠ some .variableEquals
  | .readToVariable .. => True
  | _ => False

namespace Attempt

variable {α : Type} {N : List Request → Prop}

theorem checks_parameter (stepType name : String) (value : Option α) :
    (parameter stepType name value).Checks :=
  keeps_parameter rfl fun _ => trivial

theorem checks_require (present : Bool) (what : String) : (require present what).Checks :=
  keeps_require rfl trivial

theorem checks_log (record : LogRecord) : (log record).Checks := keeps_log.mpr ⟨rfl, trivial⟩

theorem concludes_log (record : LogRecord) : (log record).Concludes :=
  keeps_log.mpr ⟨rfl, trivial⟩

theorem concludes_sleep (ms : Nat) : (sleep ms).Concludes := by
  refine keeps_bind.mpr (keeps_lift.mpr ⟨rfl, fun whole => ?_⟩)
  cases whole with
  | true => trivial
  | false => rfl

theorem touches_refuseMissing (stepType : String) (parameters : List (String × Bool)) :
    (refuseMissing stepType parameters : Attempt α).Touches N :=
  touches_throw rfl

end Attempt

open Attempt

/-- An element is sought by looks alone, of which there is at least one. -/
theorem touched_awaitElement {rig : Rig} {selector : Selector} {deadline : Option Nat}
    {looks : Nat} {t : List Exchange} {r : Except StepError Element}
    (h : (awaitElement rig selector deadline looks).run.Ends t r) :
    ∃ n, touched t = List.replicate n .look ∧ (looks ≠ 0 → n ≠ 0) ∧ refused r = false := by
  induction looks generalizing t with
  | zero =>
    obtain ⟨rfl, rfl⟩ := ends_throw.mp h
    exact ⟨0, rfl, absurd rfl, rfl⟩
  | succ looks ih =>
    unfold awaitElement at h
    rcases ends_look_bind.mp h with ⟨e, rfl, rfl⟩ | ⟨screen, u, rfl, hseen⟩
    · exact ⟨1, rfl, fun _ => Nat.one_ne_zero, rfl⟩
    · have hrest : ∃ n, touched u = List.replicate n .look ∧ refused r = false := by
        split at hseen
        · obtain ⟨rfl, rfl⟩ := ends_pure.mp hseen
          exact ⟨0, rfl, rfl⟩
        · split at hseen
          · obtain ⟨rfl, rfl⟩ := ends_throw.mp hseen
            exact ⟨0, rfl, rfl⟩
          · obtain ⟨now, v, rfl, htimed⟩ := ends_clock_bind.mp hseen
            split at htimed
            · rcases ends_sleep_bind.mp htimed with ⟨rfl, rfl⟩ | ⟨w, rfl, hagain⟩
              · exact ⟨0, rfl, rfl⟩
              · obtain ⟨n, htouched, -, hgoes⟩ := ih hagain
                exact ⟨n, htouched, hgoes⟩
            · obtain ⟨rfl, rfl⟩ := ends_throw.mp htimed
              exact ⟨0, rfl, rfl⟩
      obtain ⟨n, htouched, hgoes⟩ := hrest
      exact ⟨n + 1, congrArg (Request.look :: ·) htouched, fun _ => Nat.succ_ne_zero n, hgoes⟩

theorem touches_awaitElement (rig : Rig) (selector : Selector) (deadline : Option Nat)
    {looks : Nat} (hlooks : looks ≠ 0) :
    (awaitElement rig selector deadline looks).Touches
      fun requests => ∃ n, requests = List.replicate (n + 1) .look := by
  intro t r h
  obtain ⟨n, htouched, hsome, hgoes⟩ := touched_awaitElement h
  obtain ⟨n, rfl⟩ := Nat.exists_eq_succ_of_ne_zero (hsome hlooks)
  rw [hgoes]
  exact ⟨n, htouched⟩

theorem checks_deadlineOf (limitMs : Option Nat) : (deadlineOf limitMs).Checks := by
  unfold deadlineOf
  split
  · trivial
  · exact keeps_bind.mpr (keeps_lift.mpr ⟨rfl, fun _ => trivial⟩)

theorem checks_elementAction (kind : ElementActionKind) (text : Option String)
    (direction : Option Direction) (vars : Variables) :
    (elementAction kind text direction vars).Checks := by
  unfold elementAction
  cases kind with
  | inputText | swipe => exact keeps_bind.mpr (checks_parameter ..)
  | click | longClick | waitAppear | waitDisappear => trivial

theorem touches_compareVariable (p : BranchParameters) (vars : Variables) :
    (p.compareVariable vars).Touches (· = []) := by
  refine touches_of_checks (checks_parameter ..) fun name => ?_
  exact Concludes.touches (keeps_bind.mpr (concludes_log _)) rfl

/-- The screen is looked at once, after all checks. -/
theorem touches_askScreen (p : BranchParameters) (rig : Rig) (c : Condition) (vars : Variables) :
    (p.askScreen rig c vars).Touches (· = [.look]) := by
  refine touches_of_checks (checks_parameter ..) fun selector => ?_
  have hask : ∀ expected : String, Attempt.Touches (do
      Attempt.require rig.hasScreen "snapshot provider"
      let found := (← Attempt.look).find? (selector.substitute vars)
      Attempt.log (.debug .condition
        s!"{c.label} {(selector.substitute vars).text}: found={found.isSome}")
      return c.holds found expected) (· = [.look]) := by
    intro expected
    refine touches_of_checks (checks_require ..) fun _ => ?_
    exact touches_look.before fun screen => keeps_bind.mpr (concludes_log _)
  dsimp only
  split
  · exact touches_of_checks (checks_parameter ..) hask
  · exact hask ""

theorem touches_performBranch (rig : Rig) (p : BranchParameters) (vars : Variables) :
    (performBranch rig p vars).Touches fun requests =>
      requests =
        if p.condition.bind Condition.ofText? = some .variableEquals then [] else [.look] := by
  suffices hvalue : (p.evaluate rig vars).Touches fun requests =>
      requests =
        if p.condition.bind Condition.ofText? = some .variableEquals then [] else [.look] from
    hvalue.before fun _ => trivial
  rw [BranchParameters.evaluate_eq]
  cases p.condition with
  | none => exact touches_throw rfl
  | some text =>
    rw [Option.bind_some]
    dsimp only
    cases Condition.ofText? text with
    | none => exact touches_throw rfl
    | some c =>
      cases c with
      | variableEquals => exact touches_compareVariable p vars
      | _ => exact touches_askScreen p rig _ vars

/-- A single call of the device is made, whatever comes of it. -/
theorem touches_perform_bind (call : DeviceCall) {f : String → Attempt Effect}
    (hf : ∀ output, (f output).Concludes) :
    (Attempt.perform call >>= f).Touches fun requests => ∃ call, requests = [.perform call] :=
  ((touches_perform call).before hf).mono fun _ h => ⟨call, h⟩

/-- An iteration of a step is refused, and has touched nothing, or it has touched just what
    its kind says. -/
theorem Step.touches_perform (rig : Rig) (s : Step) (vars : Variables) :
    (s.perform rig vars).Touches s.kind.Touches := by
  unfold Step.perform
  cases s.kind with
  | start => exact Concludes.touches trivial rfl
  | tap x y =>
    dsimp only [performTap]
    split
    · exact touches_perform_bind _ fun _ => trivial
    · exact touches_refuseMissing _ _
  | swipe x1 y1 x2 y2 durationMs =>
    dsimp only [performSwipe]
    split
    · exact touches_perform_bind _ fun _ => trivial
    · exact touches_refuseMissing _ _
  | element action selector text direction =>
    dsimp only [performElement]
    split
    · refine touches_of_checks (checks_elementAction ..) fun action => ?_
      refine touches_of_checks (checks_log _) fun _ => ?_
      exact touches_perform_bind _ fun _ => trivial
    · exact touches_refuseMissing _ _
  | app action package =>
    dsimp only [performApp]
    split
    · exact touches_perform_bind _ fun _ => trivial
    · exact touches_refuseMissing _ _
  | branch condition selector variableName expectedValue =>
    exact touches_performBranch rig ⟨condition, selector, variableName, expectedValue⟩ vars
  | wait durationMs =>
    refine touches_of_checks (checks_parameter ..) fun duration => ?_
    exact Concludes.touches (keeps_bind.mpr (concludes_sleep _)) rfl
  | script name =>
    refine touches_of_checks (checks_parameter ..) fun name => ?_
    refine touches_of_checks (checks_require ..) fun _ => ?_
    refine ((touches_play _).before ?_).mono fun _ h => ⟨_, h⟩
    exact fun _ => trivial
  | setVariable name value =>
    refine touches_of_checks (checks_parameter ..) fun name => ?_
    refine touches_of_checks (keeps_logAll (fun _ => rfl) trivial) fun _ => ?_
    exact Concludes.touches (keeps_bind.mpr (concludes_log _)) rfl
  | readToVariable name selector what =>
    dsimp only [performRead]
    split
    · refine touches_of_checks (checks_require ..) fun _ => ?_
      refine touches_of_checks (checks_deadlineOf _) fun deadline => ?_
      refine (touches_awaitElement rig _ deadline (greatestLooks_ne_zero rig _)).before fun e => ?_
      exact keeps_bind.mpr (concludes_log _)
    · exact touches_refuseMissing _ _
  | shell command saveTo =>
    refine touches_of_checks (checks_parameter ..) fun command => ?_
    exact touches_perform_bind _ fun _ => trivial
  | keyEvent keyCode =>
    refine touches_of_checks (checks_parameter ..) fun code => ?_
    exact touches_perform_bind _ fun _ => trivial
  | subWorkflow | unsupported => exact touches_of_checks (checks_log _) fun _ => touches_throw rfl

/-- What holds of every iteration of a step that calls no workflow, from its progress before and
    after, its outcome, and the requests of it that have reached beyond the run. -/
structure StepKind.Contained (kind : StepKind) (p q : Progress) (outcome : StepOutcome)
    (requests : List Request) : Prop where
  /-- A step that fails has changed nothing. -/
  unchanged : outcome.error ≠ none → q = p
  /-- A step that is refused has touched nothing. -/
  untouched : ∀ e, outcome.error = some e → e.isFatal = true → requests = []
  /-- The device does at most one thing, by a call of its own or by a script. -/
  once : requests.countP Request.operates ≤ 1
  /-- Few kinds of steps look at the screen. -/
  looks : .look ∈ requests → kind.Looks
  /-- A step that is not refused has touched just what its kind says. -/
  complete : (∀ e, outcome.error = some e → e.isFatal = false) → kind.Touches requests

namespace StepKind.Touches

variable {kind : StepKind} {requests : List Request}

theorem countP_le (h : kind.Touches requests) : requests.countP Request.operates ≤ 1 := by
  cases kind with
  | start | wait | setVariable =>
    obtain rfl := h
    exact Nat.zero_le _
  | tap | swipe | element | app | shell | keyEvent =>
    obtain ⟨call, rfl⟩ := h
    exact Nat.le_refl 1
  | script =>
    obtain ⟨script, rfl⟩ := h
    exact Nat.le_refl 1
  | branch condition =>
    have hnone : requests.countP Request.operates = 0 := by
      obtain rfl := h
      split <;> rfl
    omega
  | readToVariable =>
    obtain ⟨n, rfl⟩ := h
    rw [List.countP_replicate]
    exact Nat.zero_le _
  | subWorkflow | unsupported => exact h.elim

theorem looks (h : kind.Touches requests) (hlook : .look ∈ requests) : kind.Looks := by
  cases kind with
  | start | wait | setVariable =>
    obtain rfl := h
    cases hlook
  | tap | swipe | element | app | shell | keyEvent =>
    obtain ⟨call, rfl⟩ := h
    simp at hlook
  | script =>
    obtain ⟨script, rfl⟩ := h
    simp at hlook
  | branch condition =>
    intro hequals
    obtain rfl := h
    simp [hequals] at hlook
  | readToVariable => trivial
  | subWorkflow | unsupported => exact h.elim

/-- What is sure of an iteration that is not refused. -/
theorem contained (h : kind.Touches requests) {p q : Progress} {outcome : StepOutcome}
    (hunchanged : outcome.error ≠ none → q = p)
    (hgoes : ∀ e, outcome.error = some e → e.isFatal = false) :
    kind.Contained p q outcome requests where
  unchanged := hunchanged
  untouched e he hfatal := by
    rw [hgoes e he] at hfatal
    cases hfatal
  once := h.countP_le
  looks := h.looks
  complete := fun _ => h

end StepKind.Touches

namespace Session

open Plan

/-- An iteration of a step that calls no workflow changes no variable when it fails, touches nothing
    when it is refused, and otherwise touches what its kind says. It makes at most one call of the
    device or of a script. -/
theorem executeStep_contained (run : Session) (call : Call) (s : Step)
    (hkind : ∀ id, s.kind ≠ .subWorkflow id) (p q : Progress) (outcome : StepOutcome)
    (t : List Exchange) (h : (run.executeStep call s p).Ends t (q, outcome)) :
    s.kind.Contained p q outcome (touched t) := by
  rw [executeStep_of_kind hkind] at h
  obtain ⟨t, r, u, rfl, hperform, hrest⟩ := ends_bind.mp h
  have htouches := s.touches_perform run.rig p.vars t r hperform
  cases r with
  | ok effect =>
    obtain ⟨rfl, hresult⟩ := ends_done.mp hrest
    obtain ⟨rfl, rfl⟩ := Prod.mk.inj hresult
    have hsuccess : effect.1.error = none :=
      (Plan.Keeps.follows (s.modest_perform run.rig p.vars) hperform).2
    rw [List.append_nil]
    exact htouches.contained (absurd hsuccess) (by simp [hsuccess])
  | error e =>
    obtain ⟨rfl, hresult⟩ := ends_done.mp hrest
    obtain ⟨rfl, rfl⟩ := Prod.mk.inj hresult
    rw [List.append_nil]
    by_cases hfatal : e.isFatal = true
    · have hnone : touched t = [] := (if_pos hfatal).mp htouches
      rw [hnone]
      exact {
        unchanged := fun _ => rfl
        untouched := fun _ _ _ => rfl
        once := Nat.zero_le _
        looks := nofun
        complete := fun hgoes => absurd (hgoes e rfl) (by simp [hfatal]) }
    · have hdone : s.kind.Touches (touched t) := (if_neg hfatal).mp htouches
      refine hdone.contained (fun _ => rfl) fun cause hcause => ?_
      cases hcause
      simpa using hfatal

/-- A step that reads the title of a screen and is given a second to find it. -/
def titleStep : Step :=
  { Step.new "title" (.readToVariable (some "title") (some ⟨.resourceId, "title"⟩) .text) with
    timeoutMs := some 1000 }

/-- The run is cancelled while the step waits to look again. -/
theorem executeStep_contained_titleStep :
    let run : Session := ⟨⟨.default, true, false, false⟩, "d"⟩
    let call : Call := fun _ p => done (p, .ok ())
    let p : Progress := ⟨Dict.empty.insert "title" "Inbox", 3⟩
    let t : List Exchange := [⟨.clock, (0 : Nat)⟩, ⟨.look, .ok ⟨[]⟩⟩, ⟨.clock, (5 : Nat)⟩,
      ⟨.sleep 500, false⟩]
    (∀ id, titleStep.kind ≠ .subWorkflow id) ∧
      (run.executeStep call titleStep p).Ends t (p, .failed .cancelled) ∧
      titleStep.kind.Contained p p (.failed .cancelled) [.look] := by
  intro run call p t
  have hkind : ∀ id, titleStep.kind ≠ .subWorkflow id := nofun
  have hends : (run.executeStep call titleStep p).Ends t (p, .failed .cancelled) :=
    .step (q := .clock) (0 : Nat) <| .step (q := .look) (.ok ⟨[]⟩) <|
      .step (q := .clock) (5 : Nat) <| .step (q := .sleep 500) false <| .here _
  exact ⟨hkind, hends, executeStep_contained run call titleStep hkind p p _ t hends⟩

end Session

end DeviceFlow
