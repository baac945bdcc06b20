import DeviceFlow.Proofs.Budget.Await
import DeviceFlow.Proofs.Nesting.Adequate
import DeviceFlow.Proofs.Substitution.Parameters
import DeviceFlow.Proofs.Wiring.Edge

/-!
# Names of variables

A step uses the names of variables as they are written. Placeholders in a name can be replaced
before the step is executed, without any difference, just if the name stands as it is or the step
does not come to use it. The difference shows in a variable, or at least in a line of the log.
-/

namespace DeviceFlow

open Plan

variable {vars : Variables} {rig : Rig}

/-- What comes after an attempt that never succeeds makes no difference. -/
theorem Attempt.bind_eq_of_leaves {α β : Type} {x : Attempt α} {f g : α → Attempt β}
    (h : x.Leaves fun _ => False) : (x >>= f) = (x >>= g) := by
  have hplan : ∀ p : Plan (Except StepError α),
      p.Keeps (fun _ => True) (Comes (fun _ => False) fun _ => True) →
        (p >>= fun r => (ExceptT.bindCont f r : Plan (Except StepError β))) =
          (p >>= fun r => (ExceptT.bindCont g r : Plan (Except StepError β))) := by
    intro p hp
    induction p with
    | done r =>
      cases r with
      | ok a => exact hp.elim
      | error e => rfl
    | ask q next ih =>
      rw [ask_bind, ask_bind]
      exact congrArg (ask q) (funext fun answer => ih answer (hp.2 answer))
  exact hplan x.run h

/-- An element that is on no screen is never found. -/
theorem awaitElement_finds_nothing {selector : Selector}
    (hnone : ∀ screen : Screen, screen.find? selector = none) (deadline : Option Nat)
    (looks : Nat) : (awaitElement rig selector deadline looks).Leaves fun _ => False := by
  induction looks with
  | zero => exact Attempt.leaves_throw
  | succ looks ih =>
    unfold awaitElement
    refine .after fun screen => ?_
    rw [hnone screen]
    cases deadline with
    | none => exact Attempt.leaves_throw
    | some deadline =>
      refine .after fun now => ?_
      split
      · exact .after fun _ => ih
      · exact Attempt.leaves_throw

theorem performRead_finds_nothing {selector : Selector} (s : Step) (what : Attribute)
    (hnone : ∀ screen : Screen, screen.find? (selector.substitute vars) = none)
    (name name' : String) :
    performRead rig s (some name) (some selector) what vars =
      performRead rig s (some name') (some selector) what vars := by
  refine congrArg (Attempt.require rig.hasScreen "snapshot provider" >>= ·) (funext fun _ => ?_)
  refine congrArg (deadlineOf s.limitMs >>= ·) (funext fun deadline => ?_)
  exact Attempt.bind_eq_of_leaves (awaitElement_finds_nothing hnone ..)

/-- The name of a variable is not used but by the condition on a variable. -/
theorem evaluate_of_ne {condition variableName variableName' expectedValue : Option String}
    {selector : Option Selector}
    (hne : condition.bind Condition.ofText? ≠ some .variableEquals) :
    BranchParameters.evaluate ⟨condition, selector, variableName', expectedValue⟩ rig vars =
      BranchParameters.evaluate ⟨condition, selector, variableName, expectedValue⟩ rig vars := by
  rw [BranchParameters.evaluate_eq, BranchParameters.evaluate_eq]
  dsimp only
  cases condition with
  | none => rfl
  | some text =>
    rw [Option.bind_some] at hne
    dsimp only
    cases hkind : Condition.ofText? text with
    | none => rfl
    | some c =>
      cases c with
      | variableEquals => exact absurd hkind hne
      | _ => rfl

/-- Names that stand as they are, and names that are not used, can be substituted beforehand. -/
theorem Step.perform_substituteNames (s : Step) (h : s.kind.NamesStand rig vars) :
    (s.substituteNames vars).perform rig vars = s.perform rig vars := by
  have hkind : (s.substituteNames vars).kind = s.kind.substituteNames vars := rfl
  unfold perform
  rw [hkind]
  cases hcase : s.kind with
  | branch condition selector variableName expectedValue =>
    rw [hcase] at h
    dsimp only [StepKind.substituteNames, performBranch]
    by_cases hequals : condition.bind Condition.ofText? = some .variableEquals
    · rw [h hequals]
    · rw [evaluate_of_ne hequals]
  | setVariable name value =>
    rw [hcase] at h
    dsimp only [StepKind.substituteNames]
    rw [h]
  | readToVariable name selector what =>
    rw [hcase] at h
    dsimp only [StepKind.substituteNames]
    match name, selector with
    | none, none | none, some _ | some _, none => rfl
    | some name, some selector =>
      by_cases hscreen : rig.hasScreen = true
      · by_cases hfound : ∃ screen : Screen, (screen.find? (selector.substitute vars)).isSome = true
        · rw [h hscreen hfound]
          rfl
        · have hnone : ∀ screen : Screen, screen.find? (selector.substitute vars) = none := by
            intro screen
            rw [← Option.not_isSome_iff_eq_none]
            exact fun hsome => hfound ⟨screen, hsome⟩
          exact performRead_finds_nothing s what hnone ..
      · dsimp only [performRead, Option.map_some, Attempt.require]
        rw [if_neg hscreen]
        exact Attempt.bind_eq_of_leaves Attempt.leaves_throw
  | shell command saveTo =>
    rw [hcase] at h
    cases command with
    | none => rfl
    | some command =>
      have hwired : wired (saveTo.map vars.substitute) = wired saveTo := h
      dsimp only [StepKind.substituteNames, performShell]
      rw [hwired]
  | start | tap | swipe | element | app | wait | script | keyEvent => rfl
  | subWorkflow | unsupported =>
    dsimp only [StepKind.substituteNames]
    rw [typeName, hkind, hcase, typeName, hcase]
    rfl

namespace Step

theorem called?_eq_none_iff {s : Step} : s.called? = none ↔ ∀ id, s.kind ≠ .subWorkflow id := by
  unfold called?
  cases s.kind <;> simp

theorem called?_substituteTexts (s : Step) (vars : Variables) :
    (s.substituteTexts vars).called? = s.called? := by
  unfold called? substituteTexts
  cases s.kind <;> rfl

theorem called?_substituteNames (s : Step) (vars : Variables) :
    (s.substituteNames vars).called? = s.called? := by
  unfold called? substituteNames
  cases s.kind <;> rfl

theorem substituteNames_substituteTexts (s : Step) (vars : Variables) :
    (s.substituteNames vars).substituteTexts vars =
      (s.substituteTexts vars).substituteNames vars := by
  unfold substituteTexts substituteNames
  cases s.kind <;> rfl

end Step

/-- The number of opening braces of a text. -/
def openings (text : String) : Nat := text.toList.count '\x7b'

@[simp] theorem openings_append (a b : String) : openings (a ++ b) = openings a + openings b := by
  rw [openings, String.toList_append, List.count_append]
  rfl

/-- Whatever the name is, the same exchanges lead to a line of the log, from which the number of
    opening braces of the name can be told. -/
def Tells (x : String → Attempt Effect) : Prop :=
  ∃ (t : List Exchange) (line : String → LogRecord),
    (∀ name, ∃ next, (x name).run.Follows t (ask (.log (line name)) next)) ∧
      ∀ name name', line name' = line name → openings name' = openings name

theorem openings_getD (hflat : vars.Flat) (name : String) : openings (vars.getD name "") = 0 := by
  unfold Dict.getD
  cases h : vars.get? name with
  | none => rfl
  | some value => exact List.count_eq_zero.mpr (hflat name value h)

theorem follows_logAll {α : Type} (records : List LogRecord) (f : Unit → Attempt α) :
    (Attempt.logAll records >>= f).run.Follows (records.map fun record => ⟨.log record, ()⟩)
      (f ()).run := by
  induction records with
  | nil => exact .here _
  | cons record rest ih => exact .step (q := .log record) () ih

theorem tells_performBranch (hflat : vars.Flat) {condition expectedValue : Option String}
    {selector : Option Selector}
    (hequals : condition.bind Condition.ofText? = some .variableEquals) :
    Tells fun name => performBranch rig ⟨condition, selector, some name, expectedValue⟩ vars := by
  let actual (name : String) := vars.getD name ""
  let expected := (expectedValue.map vars.substitute).getD ""
  refine ⟨[], fun name =>
    .debug .condition s!"variable_equals: {name}='{actual name}' vs '{expected}'", ?_, ?_⟩
  · intro name
    obtain ⟨text, rfl, htext⟩ := Option.bind_eq_some_iff.mp hequals
    dsimp only [performBranch]
    rw [BranchParameters.evaluate_eq]
    dsimp only
    rw [htext]
    exact ⟨_, .here _⟩
  · intro name name' hline
    have htext := congrArg (openings ∘ LogRecord.text) hline
    simp only [LogRecord.debug, Function.comp_apply, openings_append] at htext
    have hvalue := openings_getD hflat name
    have hvalue' := openings_getD hflat name'
    change _ + openings name' + _ + openings (vars.getD name' "") + _ + _ + _ =
      _ + openings name + _ + openings (vars.getD name "") + _ + _ + _ at htext
    omega

theorem tells_performSet (value : Option String) (vars : Variables) :
    Tells fun name => performSet (some name) value vars := by
  let text := vars.substitute (value.getD "")
  let result := (Expression.evaluate? text).getD text
  refine ⟨(Expression.evaluationLog text).map fun record => ⟨.log record, ()⟩,
    fun name => .debug .step s!"Set variable {name} = {result}", ?_, ?_⟩
  · intro name
    exact ⟨_, follows_logAll ..⟩
  · intro name name' hline
    have htext := congrArg (openings ∘ LogRecord.text) hline
    simp only [LogRecord.debug, Function.comp_apply, openings_append] at htext
    change _ + openings name' + _ + _ = _ + openings name + _ + _ at htext
    omega

theorem Attempt.follows_bind {α β : Type} {x : Attempt α} {t : List Exchange} {a : α}
    (h : x.run.Ends t (.ok a)) (f : α → Attempt β) : (x >>= f).run.Follows t (f a).run :=
  Follows.bind h _

/-- An element that is on the screen is found at the first look. -/
theorem ends_awaitElement (rig : Rig) {selector : Selector} {screen : Screen} {element : Element}
    (hfind : screen.find? selector = some element) (deadline : Option Nat) {looks : Nat}
    (hlooks : looks ≠ 0) :
    (awaitElement rig selector deadline looks).run.Ends [⟨.look, .ok screen⟩] (.ok element) := by
  obtain ⟨looks, rfl⟩ := Nat.exists_eq_succ_of_ne_zero hlooks
  unfold awaitElement
  refine Attempt.ends_look_bind.mpr (.inr ⟨screen, [], rfl, ?_⟩)
  rw [hfind]
  exact Attempt.ends_pure.mpr ⟨rfl, rfl⟩

theorem exists_ends_deadlineOf (limitMs : Option Nat) :
    ∃ t deadline, (deadlineOf limitMs).run.Ends t (.ok deadline) := by
  cases limitMs with
  | none => exact ⟨[], none, .here _⟩
  | some limit =>
    exact ⟨[⟨.clock, (0 : Nat)⟩], some (0 + limit), .step (q := .clock) (0 : Nat) (.here _)⟩

theorem tells_performRead (hscreen : rig.hasScreen = true) (s : Step) {selector : Selector}
    (what : Attribute) {screen : Screen} {element : Element}
    (hfind : screen.find? (selector.substitute vars) = some element) :
    Tells fun name => performRead rig s (some name) (some selector) what vars := by
  obtain ⟨t, deadline, hdeadline⟩ := exists_ends_deadlineOf s.limitMs
  refine ⟨t ++ [⟨.look, .ok screen⟩], fun name => .debug .step
    s!"Read {what.label} of {(selector.substitute vars).text} into {name}: '{element.get what}'",
    ?_, ?_⟩
  · intro name
    have hrequire : Attempt.require rig.hasScreen "snapshot provider" = pure () := if_pos hscreen
    dsimp only [performRead]
    rw [hrequire]
    have hfound := ends_awaitElement rig hfind deadline (greatestLooks_ne_zero rig s.limitMs)
    exact ⟨_, (Attempt.follows_bind hdeadline _).append (Attempt.follows_bind hfound _)⟩
  · intro name name' hline
    have htext := congrArg (openings ∘ LogRecord.text) hline
    simp only [LogRecord.debug, Function.comp_apply, openings_append] at htext
    change _ + _ + _ + _ + _ + openings name' + _ + _ + _ =
      _ + _ + _ + _ + _ + openings name + _ + _ + _ at htext
    omega

/-- The variables after a shell command, of which the output may be kept. -/
def keepOutput (saveTo : Option String) (output : String) (vars : Variables) : Variables :=
  match wired saveTo with
  | some name => vars.insert name (Text.trimmed output)
  | none => vars

theorem get?_keepOutput (saveTo : Option String) (output : String) (vars : Variables)
    (name : String) :
    (keepOutput saveTo output vars).get? name =
      if wired saveTo = some name then some (Text.trimmed output) else vars.get? name := by
  unfold keepOutput
  cases wired saveTo with
  | none => rfl
  | some other => simp only [Dict.get?_insert, Option.some.injEq]

theorem wired_of_keepOutput {saveTo saveTo' : Option String} {name : String}
    (h : ∀ output, keepOutput saveTo' output vars = keepOutput saveTo output vars)
    (hname : wired saveTo = some name) : wired saveTo' = some name := by
  by_contra hother
  -- One of two outputs is not what the variable has held before.
  have hheld : ∀ output, vars.get? name = some (Text.trimmed output) := by
    intro output
    have hget := get?_keepOutput saveTo output vars name
    rw [if_pos hname, ← h output, get?_keepOutput, if_neg hother] at hget
    exact hget
  have hsame : some (Text.trimmed "a") = some (Text.trimmed "b") :=
    (hheld "a").symm.trans (hheld "b")
  revert hsame
  decide

/-- Where an output is kept shows in the variables. -/
theorem wired_eq_of_keepOutput {saveTo saveTo' : Option String}
    (h : ∀ output, keepOutput saveTo' output vars = keepOutput saveTo output vars) :
    wired saveTo' = wired saveTo := by
  cases hname : wired saveTo with
  | some name => exact wired_of_keepOutput h hname
  | none =>
    cases hname' : wired saveTo' with
    | none => rfl
    | some name =>
      rw [wired_of_keepOutput (fun output => (h output).symm) hname'] at hname
      cases hname

namespace Session

variable {run : Session} {call : Call} {s s' : Step} {p : Progress}

theorem executeStep_congr (hcalled : s'.called? = s.called?)
    (hperform : s'.perform run.rig p.vars = s.perform run.rig p.vars) :
    run.executeStep call s' p = run.executeStep call s p := by
  rw [executeStep_eq, executeStep_eq, hcalled, hperform]

theorem openings_eq_of_tells {x : String → Attempt Effect} {name name' : String} (hx : Tells x)
    (hcalled : s.called? = none) (hcalled' : s'.called? = none)
    (hs : s.perform run.rig p.vars = x name) (hs' : s'.perform run.rig p.vars = x name')
    (h : run.executeStep call s' p = run.executeStep call s p) :
    openings name' = openings name := by
  obtain ⟨t, line, hfollows, hline⟩ := hx
  obtain ⟨next, hnext⟩ := hfollows name
  obtain ⟨next', hnext'⟩ := hfollows name'
  rw [executeStep_of_kind (Step.called?_eq_none_iff.mp hcalled),
    executeStep_of_kind (Step.called?_eq_none_iff.mp hcalled'), hs, hs'] at h
  have hsame := Follows.unique (h ▸ hnext'.bind _) (hnext.bind _)
  rw [ask_bind, ask_bind] at hsame
  injection hsame with hrequest
  exact hline name' name (Request.log.inj hrequest) |>.symm

theorem ends_executeStep_of_shell (run : Session) (call : Call) (s : Step) (p : Progress)
    {command : String} {saveTo : Option String} (hs : s.kind = .shell (some command) saveTo)
    (output : String) :
    (run.executeStep call s p).Ends
      [⟨.perform (.shell (p.vars.substitute command)), .ok output⟩]
      ({ p with vars := keepOutput saveTo output p.vars }, .withOutput output) := by
  have hperform : s.perform run.rig p.vars = performShell (some command) saveTo p.vars := by
    unfold Step.perform
    rw [hs]
  have hkind : ∀ id, s.kind ≠ .subWorkflow id := by simp [hs]
  rw [executeStep_of_kind hkind, hperform]
  exact .step (q := .perform _) (.ok output) (.here _)

/-- A name that does not stand shows in what the step does. -/
theorem namesStand_of_executeStep_eq (hflat : p.vars.Flat)
    (h : run.executeStep call (s.substituteNames p.vars) p = run.executeStep call s p) :
    s.kind.NamesStand run.rig p.vars := by
  have stands : ∀ {name : String}, openings (p.vars.substitute name) = openings name →
      (some name).map p.vars.substitute = some name :=
    fun hcount => congrArg some (Variables.substitute_eq_of_count hflat hcount)
  obtain ⟨id, kind, loopCount, preWaitMs, postDelayMs, timeoutMs, onError, connections⟩ := s
  cases kind with
  | branch condition selector variableName expectedValue =>
    intro hequals
    cases variableName with
    | none => rfl
    | some name =>
      have htells : Tells fun name =>
          performBranch run.rig ⟨condition, selector, some name, expectedValue⟩ p.vars :=
        tells_performBranch hflat hequals
      exact stands (openings_eq_of_tells htells rfl rfl rfl rfl h)
  | setVariable name value =>
    cases name with
    | none => rfl
    | some name =>
      have htells := tells_performSet value p.vars
      exact stands (openings_eq_of_tells htells rfl rfl rfl rfl h)
  | readToVariable name selector what =>
    match name, selector with
    | none, none | some _, none => trivial
    | none, some selector => exact fun _ _ => rfl
    | some name, some selector =>
      rintro hscreen ⟨screen, hsome⟩
      obtain ⟨element, hfind⟩ := Option.isSome_iff_exists.mp hsome
      have htells := tells_performRead hscreen
        ⟨id, .readToVariable (some name) (some selector) what, loopCount, preWaitMs, postDelayMs,
          timeoutMs, onError, connections⟩ what hfind
      exact stands (openings_eq_of_tells htells rfl rfl rfl rfl h)
  | shell command saveTo =>
    cases command with
    | none => trivial
    | some command =>
      have hkept : ∀ output, keepOutput (saveTo.map p.vars.substitute) output p.vars =
          keepOutput saveTo output p.vars := by
        intro output
        have hends := run.ends_executeStep_of_shell call
          ⟨id, .shell (some command) saveTo, loopCount, preWaitMs, postDelayMs, timeoutMs, onError,
            connections⟩ p rfl output
        have hends' := run.ends_executeStep_of_shell call
          ⟨id, .shell (some command) (saveTo.map p.vars.substitute), loopCount, preWaitMs,
            postDelayMs, timeoutMs, onError, connections⟩ p rfl output
        rw [← h] at hends
        exact congrArg (·.1.vars) (hends.unique hends')
      exact wired_eq_of_keepOutput hkept
  | start | tap | swipe | element | app | wait | script | keyEvent | subWorkflow | unsupported =>
    trivial

/-- A step does the same when the placeholders in its texts have been replaced before, if no value
    of a variable contains an opening brace. When the placeholders in the names of its variables
    have been replaced as well, it does the same, down to the lines of the log, just if the names
    that it comes to use stand as they are. -/
theorem executeStep_substitute (run : Session) (call : Call) (s : Step) (p : Progress)
    (hflat : p.vars.Flat) :
    run.executeStep call (s.substituteTexts p.vars) p = run.executeStep call s p ∧
      (run.executeStep call ((s.substituteTexts p.vars).substituteNames p.vars) p =
          run.executeStep call s p ↔
        s.kind.NamesStand run.rig p.vars) := by
  have htexts : ∀ s : Step, run.executeStep call (s.substituteTexts p.vars) p =
      run.executeStep call s p := by
    intro s
    exact executeStep_congr (s.called?_substituteTexts p.vars)
      (s.perform_substituteTexts hflat run.rig)
  refine ⟨htexts s, ?_⟩
  rw [← s.substituteNames_substituteTexts, htexts]
  constructor
  · exact namesStand_of_executeStep_eq hflat
  · intro hstand
    exact executeStep_congr (s.called?_substituteNames p.vars) (s.perform_substituteNames hstand)

/-- A step that keeps the output of a command in a variable. -/
def keepingStep : Step :=
  .new "s" (.shell (some "id \x7b\x7bk\x7d\x7d") (some "\x7b\x7bk\x7d\x7d"))

/-- One variable is set before the step. -/
def beforeKeeping : Progress := ⟨Dict.empty.insert "k" "x", 0⟩

theorem flat_beforeKeeping : beforeKeeping.vars.Flat := Variables.flat_empty.insert (by decide)

theorem substitute_command_beforeKeeping :
    beforeKeeping.vars.substitute "id \x7b\x7bk\x7d\x7d" = "id x" := by
  decide +kernel

theorem substitute_name_beforeKeeping :
    beforeKeeping.vars.substitute "\x7b\x7bk\x7d\x7d" = "x" := by
  decide +kernel

theorem executeStep_substitute_keepingStep :
    let run : Session := ⟨⟨.default, false, false, false⟩, "d"⟩
    let call : Call := fun _ p => done (p, .ok ())
    let s := keepingStep.substituteTexts beforeKeeping.vars
    beforeKeeping.vars.Flat ∧
      s.kind = .shell (some "id x") (some "\x7b\x7bk\x7d\x7d") ∧
      run.executeStep call s beforeKeeping = run.executeStep call keepingStep beforeKeeping ∧
      run.executeStep call (s.substituteNames beforeKeeping.vars) beforeKeeping ≠
        run.executeStep call keepingStep beforeKeeping := by
  intro run call s
  obtain ⟨htexts, hnames⟩ :=
    executeStep_substitute run call keepingStep beforeKeeping flat_beforeKeeping
  refine ⟨flat_beforeKeeping, ?_, htexts, fun h => ?_⟩
  · rw [← substitute_command_beforeKeeping]
    rfl
  · have hstand : wired (some "x") = wired (some "\x7b\x7bk\x7d\x7d") := by
      rw [← substitute_name_beforeKeeping]
      exact hnames.mp h
    revert hstand
    decide

/-- The output is kept in the variable with the name as it is written. -/
theorem output_is_not_kept_under_substituted_name :
    let run : Session := ⟨⟨.default, false, false, false⟩, "d"⟩
    let call : Call := fun _ p => done (p, .ok ())
    let vars := beforeKeeping.vars
    let s := (keepingStep.substituteTexts vars).substituteNames vars
    let t : List Exchange := [⟨.perform (.shell "id x"), .ok "7"⟩]
    vars.Flat ∧
      s.kind = .shell (some "id x") (some "x") ∧
      (run.executeStep call s beforeKeeping).Ends t (⟨vars.insert "x" "7", 0⟩, .withOutput "7") ∧
      (run.executeStep call keepingStep beforeKeeping).Ends t
        (⟨vars.insert "\x7b\x7bk\x7d\x7d" "7", 0⟩, .withOutput "7") ∧
      vars.insert "x" "7" ≠ vars.insert "\x7b\x7bk\x7d\x7d" "7" := by
  intro run call vars s t
  have hs : s.kind = .shell (some "id x") (some "x") := by
    rw [← substitute_command_beforeKeeping, ← substitute_name_beforeKeeping]
    rfl
  have hx : beforeKeeping.vars.substitute "id x" = "id x" := by
    nth_rewrite 1 [← substitute_command_beforeKeeping]
    rw [Variables.substitute_substitute flat_beforeKeeping, substitute_command_beforeKeeping]
  have hends := run.ends_executeStep_of_shell call s beforeKeeping hs "7"
  have hends' := run.ends_executeStep_of_shell call keepingStep beforeKeeping rfl "7"
  rw [hx] at hends
  rw [substitute_command_beforeKeeping] at hends'
  exact ⟨flat_beforeKeeping, hs, hends, hends', by decide⟩

end Session

end DeviceFlow
