import DeviceFlow.Decimal.Power
import DeviceFlow.Expression.Evaluate
import DeviceFlow.Run.Condition
import DeviceFlow.Run.Outcome
import DeviceFlow.Text.Digits

/-!
# Performing a step

What one iteration of a step does, for all steps but calls of workflows. Parameters are looked
at before anything else happens, placeholders are replaced in texts but not in numbers, and
variables change only when the step succeeds.
-/

namespace DeviceFlow

/-- Fails with the names of the parameters that are missing. -/
def refuseMissing {α : Type} (stepType : String) (parameters : List (String × Bool)) :
    Attempt α :=
  throw (.missingParameters stepType ((parameters.filter fun p => !p.2).map (·.1)))

/-- What a step that has succeeded leaves behind. -/
abbrev Effect := StepOutcome × Variables

/-- A limit on the time of a step, where zero is no limit. -/
def Step.limitMs (s : Step) : Option Nat :=
  (s.timeoutMs.filter (0 < ·)).map (·.toNat)

/-- Taps the screen. -/
def performTap (x y : Option Int32) (vars : Variables) : Attempt Effect :=
  match x, y with
  | some x, some y => do
    let _ ← Attempt.perform (.tap x y)
    return (.ok, vars)
  | _, _ => refuseMissing "tap" [("x", x.isSome), ("y", y.isSome)]

/-- Swipes over the screen. -/
def performSwipe (rig : Rig) (x1 y1 x2 y2 : Option Int32) (durationMs : Option UInt64)
    (vars : Variables) : Attempt Effect :=
  match x1, y1, x2, y2 with
  | some x1, some y1, some x2, some y2 => do
    let duration := (durationMs.map (·.toNat)).getD rig.settings.swipeDurationMs
    let _ ← Attempt.perform (.swipe x1 y1 x2 y2 duration)
    return (.ok, vars)
  | _, _, _, _ =>
    refuseMissing "swipe"
      [("x1", x1.isSome), ("y1", y1.isSome), ("x2", x2.isSome), ("y2", y2.isSome)]

/-- The action on an element with its parameters. -/
def elementAction (kind : ElementActionKind) (text : Option String)
    (direction : Option Direction) (vars : Variables) : Attempt ElementAction :=
  match kind with
  | .click => pure .click
  | .longClick => pure .longClick
  | .inputText => do
    return .inputText (vars.substitute (← Attempt.parameter "element" "text" text))
  | .swipe => return .swipe (← Attempt.parameter "element" "direction" direction)
  | .waitAppear => pure .waitAppear
  | .waitDisappear => pure .waitDisappear

/-- Does something with an element of the screen. -/
def performElement (rig : Rig) (s : Step) (kind : Option ElementActionKind)
    (selector : Option Selector) (text : Option String) (direction : Option Direction)
    (vars : Variables) : Attempt Effect :=
  match kind, selector with
  | some kind, some selector => do
    let action ← elementAction kind text direction vars
    let selector := selector.substitute vars
    let timeout := s.limitMs.getD rig.settings.elementTimeoutMs
    Attempt.log (.debug .step
      s!"{action.name} on {selector.text} (timeout {Text.durationText timeout})")
    let _ ← Attempt.perform (.element selector action timeout)
    return (.ok, vars)
  | _, _ => refuseMissing "element" [("action", kind.isSome), ("selector", selector.isSome)]

/-- Does something with an app. -/
def performApp (action : Option AppAction) (package : Option String) (vars : Variables) :
    Attempt Effect :=
  match action, package with
  | some action, some package => do
    let _ ← Attempt.perform (.app action (vars.substitute package))
    return (.ok, vars)
  | _, _ => refuseMissing "app" [("action", action.isSome), ("package", package.isSome)]

/-- Evaluates a condition. -/
def performBranch (rig : Rig) (parameters : BranchParameters) (vars : Variables) :
    Attempt Effect := do
  return (.condition (← parameters.evaluate rig vars), vars)

/-- Waits. -/
def performWait (durationMs : Option UInt64) (vars : Variables) : Attempt Effect := do
  Attempt.sleep (← Attempt.parameter "wait" "duration_ms" durationMs).toNat
  return (.ok, vars)

/-- Replays a recorded script. -/
def performScript (rig : Rig) (name : Option String) (vars : Variables) : Attempt Effect := do
  let name ← Attempt.parameter "script" "name" name
  Attempt.require rig.hasScripts "script player"
  Attempt.play (vars.substitute name)
  return (.ok, vars)

/-- Sets a variable to the value of an expression, or to the text itself when it is none. -/
def performSet (name value : Option String) (vars : Variables) : Attempt Effect := do
  let name ← Attempt.parameter "set_variable" "name" name
  let text := vars.substitute (value.getD "")
  Attempt.logAll (Expression.evaluationLog text)
  let value := (Expression.evaluate? text).getD text
  Attempt.log (.debug .step s!"Set variable {name} = {value}")
  return (.ok, vars.insert name value)

/-- Looks at the screen until there is the element that is sought. After every look in vain
    the time is checked against the deadline, and there is a pause before the next one; without
    a deadline there is one look only. The first number bounds the looks. -/
def awaitElement (rig : Rig) (selector : Selector) (deadline : Option Nat) :
    Nat → Attempt Element
  | 0 => throw (.device (.elementNotFound selector.text))
  | looks + 1 => do
    match (← Attempt.look).find? selector with
    | some element => return element
    | none =>
      match deadline with
      | none => throw (.device (.elementNotFound selector.text))
      | some deadline =>
        if (← ExceptT.lift Plan.clock) < deadline then
          Attempt.sleep rig.settings.pollIntervalMs
          awaitElement rig selector (some deadline) looks
        else throw (.device (.elementNotFound selector.text))

/-- The time at which a limit that begins now is over. -/
def deadlineOf (limitMs : Option Nat) : Attempt (Option Nat) :=
  match limitMs with
  | none => pure none
  | some limit => do return some ((← ExceptT.lift Plan.clock) + limit)

/-- How often the screen is looked at within a limit: the time moves on by at least a
    millisecond in every pause, unless pauses take no time at all. -/
def greatestLooks (rig : Rig) (limitMs : Option Nat) : Nat :=
  match limitMs with
  | none => 1
  | some limit => if rig.settings.pollIntervalMs = 0 then Decimal.twoTo 64 else limit + 1

/-- Reads an attribute of an element of the screen into a variable. -/
def performRead (rig : Rig) (s : Step) (name : Option String) (selector : Option Selector)
    (what : Attribute) (vars : Variables) : Attempt Effect :=
  match name, selector with
  | some name, some selector => do
    Attempt.require rig.hasScreen "snapshot provider"
    let selector := selector.substitute vars
    let deadline ← deadlineOf s.limitMs
    let element ← awaitElement rig selector deadline (greatestLooks rig s.limitMs)
    let value := element.get what
    Attempt.log (.debug .step s!"Read {what.label} of {selector.text} into {name}: '{value}'")
    return (.ok, vars.insert name value)
  | _, _ =>
    refuseMissing "read_to_variable" [("name", name.isSome), ("selector", selector.isSome)]

/-- Runs a shell command, and may keep what it prints in a variable, without the blanks around
    it. -/
def performShell (command saveTo : Option String) (vars : Variables) : Attempt Effect := do
  let command ← Attempt.parameter "shell" "command" command
  let output ← Attempt.perform (.shell (vars.substitute command))
  let vars :=
    match wired saveTo with
    | some name => vars.insert name (Text.trimmed output)
    | none => vars
  return (.withOutput output, vars)

/-- Presses a key. -/
def performKey (keyCode : Option Int32) (vars : Variables) : Attempt Effect := do
  let _ ← Attempt.perform (.keyEvent (← Attempt.parameter "key_event" "key_code" keyCode))
  return (.ok, vars)

/-- Performs one iteration of a step. Steps that need more than a device and its helpers, and
    steps of an unknown kind, are refused. -/
def Step.perform (rig : Rig) (s : Step) (vars : Variables) : Attempt Effect :=
  match s.kind with
  | .start => pure (.ok, vars)
  | .tap x y => performTap x y vars
  | .swipe x1 y1 x2 y2 durationMs => performSwipe rig x1 y1 x2 y2 durationMs vars
  | .element action selector text direction =>
    performElement rig s action selector text direction vars
  | .app action package => performApp action package vars
  | .branch condition selector variableName expectedValue =>
    performBranch rig ⟨condition, selector, variableName, expectedValue⟩ vars
  | .wait durationMs => performWait durationMs vars
  | .script name => performScript rig name vars
  | .setVariable name value => performSet name value vars
  | .readToVariable name selector what => performRead rig s name selector what vars
  | .shell command saveTo => performShell command saveTo vars
  | .keyEvent keyCode => performKey keyCode vars
  | .subWorkflow _ | .unsupported => do
    Attempt.log (.debug .step s!"Refusing to dispatch {s.typeName} step '{s.id}'")
    throw .unsupportedStep

end DeviceFlow
