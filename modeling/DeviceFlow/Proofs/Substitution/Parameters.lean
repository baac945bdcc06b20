import DeviceFlow.Proofs.Likeness.Walk
import DeviceFlow.Proofs.Substitution.Flat

/-!
# Substitution before a step

The texts of a step can be substituted before it is executed: nothing changes, as a second
substitution finds nothing to do. Names of variables are used as they are written. To substitute
them as well changes what the step does, unless it leaves the name as it is or the step does not
come to use it.
-/

namespace DeviceFlow

/-- What a step does, with the placeholders replaced in all its texts that are no names of
    variables. -/
def StepKind.substituteTexts (vars : Variables) : StepKind → StepKind
  | .element action selector text direction =>
    .element action (selector.map (·.substitute vars)) (text.map vars.substitute) direction
  | .app action package => .app action (package.map vars.substitute)
  | .branch condition selector variableName expectedValue =>
    .branch condition (selector.map (·.substitute vars)) variableName
      (expectedValue.map vars.substitute)
  | .script name => .script (name.map vars.substitute)
  | .setVariable name value => .setVariable name (value.map vars.substitute)
  | .readToVariable name selector what =>
    .readToVariable name (selector.map (·.substitute vars)) what
  | .shell command saveTo => .shell (command.map vars.substitute) saveTo
  | kind => kind

/-- What a step does, with the placeholders replaced in the names of variables. -/
def StepKind.substituteNames (vars : Variables) : StepKind → StepKind
  | .branch condition selector variableName expectedValue =>
    .branch condition selector (variableName.map vars.substitute) expectedValue
  | .setVariable name value => .setVariable (name.map vars.substitute) value
  | .readToVariable name selector what => .readToVariable (name.map vars.substitute) selector what
  | .shell command saveTo => .shell command (saveTo.map vars.substitute)
  | kind => kind

/-- The names of variables that a step comes to use are left as they are by substitution. -/
def StepKind.NamesStand (rig : Rig) (vars : Variables) : StepKind → Prop
  | .branch condition _ variableName _ =>
    condition.bind Condition.ofText? = some .variableEquals →
      variableName.map vars.substitute = variableName
  | .setVariable name _ => name.map vars.substitute = name
  | .readToVariable name (some selector) _ =>
    rig.hasScreen = true →
      (∃ screen : Screen, (screen.find? (selector.substitute vars)).isSome = true) →
        name.map vars.substitute = name
  | .shell (some _) saveTo => wired (saveTo.map vars.substitute) = wired saveTo
  | _ => True

namespace Step

/-- A step with the placeholders replaced in all its texts that are no names of variables. -/
def substituteTexts (vars : Variables) (s : Step) : Step :=
  { s with kind := s.kind.substituteTexts vars }

/-- A step with the placeholders replaced in the names of variables. -/
def substituteNames (vars : Variables) (s : Step) : Step :=
  { s with kind := s.kind.substituteNames vars }

end Step

variable {vars : Variables}

theorem Selector.substitute_substitute (hflat : vars.Flat) (s : Selector) :
    (s.substitute vars).substitute vars = s.substitute vars :=
  congrArg (Selector.mk s.kind) (vars.substitute_substitute hflat s.value)

/-- A parameter can be changed beforehand if what comes after it does not tell the difference. -/
theorem Attempt.parameter_map_bind {α β : Type} {g : α → α} {f : α → Attempt β}
    (h : ∀ a, f (g a) = f a) (stepType name : String) (value : Option α) :
    (Attempt.parameter stepType name (value.map g) >>= f) =
      (Attempt.parameter stepType name value >>= f) := by
  cases value with
  | none => rfl
  | some a => exact h a

theorem elementAction_substitute (hflat : vars.Flat) (kind : ElementActionKind)
    (text : Option String) (direction : Option Direction) :
    elementAction kind (text.map vars.substitute) direction vars =
      elementAction kind text direction vars := by
  cases kind with
  | inputText =>
    refine Attempt.parameter_map_bind (fun text => ?_) ..
    rw [vars.substitute_substitute hflat]
  | _ => rfl

theorem performElement_substitute (hflat : vars.Flat) (rig : Rig) (s : Step)
    (kind : Option ElementActionKind) (selector : Option Selector) (text : Option String)
    (direction : Option Direction) :
    performElement rig (s.substituteTexts vars) kind (selector.map (·.substitute vars))
        (text.map vars.substitute) direction vars =
      performElement rig s kind selector text direction vars := by
  match kind, selector with
  | none, none | none, some _ | some _, none => rfl
  | some kind, some selector =>
    dsimp only [performElement, Option.map_some]
    rw [elementAction_substitute hflat, Selector.substitute_substitute hflat]
    rfl

theorem performApp_substitute (hflat : vars.Flat) (action : Option AppAction)
    (package : Option String) :
    performApp action (package.map vars.substitute) vars = performApp action package vars := by
  match action, package with
  | none, none | none, some _ | some _, none => rfl
  | some action, some package =>
    dsimp only [performApp, Option.map_some]
    rw [vars.substitute_substitute hflat]

theorem map_substitute_twice (hflat : vars.Flat) (text : Option String) :
    (text.map vars.substitute).map vars.substitute = text.map vars.substitute := by
  cases text with
  | none => rfl
  | some text => exact congrArg some (vars.substitute_substitute hflat text)

/-- The parameters of a condition with the placeholders replaced in all texts that are no names of
    variables. -/
def BranchParameters.substituteTexts (vars : Variables) (p : BranchParameters) :
    BranchParameters :=
  { p with
    selector := p.selector.map (·.substitute vars)
    expectedValue := p.expectedValue.map vars.substitute }

theorem compareVariable_substitute (hflat : vars.Flat) (p : BranchParameters) :
    (p.substituteTexts vars).compareVariable vars = p.compareVariable vars := by
  dsimp only [BranchParameters.compareVariable, BranchParameters.substituteTexts]
  rw [map_substitute_twice hflat]

theorem askScreen_substitute (hflat : vars.Flat) (rig : Rig) (c : Condition)
    (p : BranchParameters) :
    (p.substituteTexts vars).askScreen rig c vars = p.askScreen rig c vars := by
  dsimp only [BranchParameters.askScreen, BranchParameters.substituteTexts]
  rw [map_substitute_twice hflat]
  refine Attempt.parameter_map_bind (fun selector => ?_) ..
  rw [Selector.substitute_substitute hflat]

theorem performBranch_substitute (hflat : vars.Flat) (rig : Rig) (p : BranchParameters) :
    performBranch rig (p.substituteTexts vars) vars = performBranch rig p vars := by
  unfold performBranch BranchParameters.evaluate
  simp only [compareVariable_substitute hflat, askScreen_substitute hflat]
  rfl

theorem performScript_substitute (hflat : vars.Flat) (rig : Rig) (name : Option String) :
    performScript rig (name.map vars.substitute) vars = performScript rig name vars := by
  refine Attempt.parameter_map_bind (fun name => ?_) ..
  rw [vars.substitute_substitute hflat]

theorem performSet_substitute (hflat : vars.Flat) (name value : Option String) :
    performSet name (value.map vars.substitute) vars = performSet name value vars := by
  have hvalue : vars.substitute ((value.map vars.substitute).getD "") =
      vars.substitute (value.getD "") := by
    cases value with
    | none => rfl
    | some value => exact vars.substitute_substitute hflat value
  dsimp only [performSet]
  rw [hvalue]

theorem performRead_substitute (hflat : vars.Flat) (rig : Rig) (s : Step) (name : Option String)
    (selector : Option Selector) (what : Attribute) :
    performRead rig (s.substituteTexts vars) name (selector.map (·.substitute vars)) what vars =
      performRead rig s name selector what vars := by
  match name, selector with
  | none, none | none, some _ | some _, none => rfl
  | some name, some selector =>
    dsimp only [performRead, Option.map_some]
    rw [Selector.substitute_substitute hflat]
    rfl

theorem performShell_substitute (hflat : vars.Flat) (command saveTo : Option String) :
    performShell (command.map vars.substitute) saveTo vars = performShell command saveTo vars := by
  refine Attempt.parameter_map_bind (fun command => ?_) ..
  rw [vars.substitute_substitute hflat]

/-- The texts of a step can be substituted beforehand. -/
theorem Step.perform_substituteTexts (hflat : vars.Flat) (rig : Rig) (s : Step) :
    (s.substituteTexts vars).perform rig vars = s.perform rig vars := by
  have hkind : (s.substituteTexts vars).kind = s.kind.substituteTexts vars := rfl
  unfold perform
  rw [hkind]
  cases hcase : s.kind with
  | element action selector text direction => exact performElement_substitute hflat ..
  | app action package => exact performApp_substitute hflat ..
  | branch condition selector variableName expectedValue =>
    exact performBranch_substitute hflat rig
      ⟨condition, selector, variableName, expectedValue⟩
  | script name => exact performScript_substitute hflat ..
  | setVariable name value => exact performSet_substitute hflat ..
  | readToVariable name selector what => exact performRead_substitute hflat ..
  | shell command saveTo => exact performShell_substitute hflat ..
  | start | tap | swipe | wait | keyEvent => rfl
  | subWorkflow | unsupported =>
    dsimp only [StepKind.substituteTexts]
    rw [typeName, hkind, hcase, typeName, hcase]
    rfl

end DeviceFlow
