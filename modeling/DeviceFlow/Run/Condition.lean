import DeviceFlow.Run.Rig
import DeviceFlow.Screen.Path
import DeviceFlow.Text.Blank
import DeviceFlow.Variables

/-!
# Conditions of branch steps

A condition compares a variable with a text, or asks for an element of the screen. Everything
that is wrong with the parameters is found out before the screen is looked at.
-/

namespace DeviceFlow

/-- What a condition asks. -/
inductive Condition where
  | variableEquals
  | exists
  | notExists
  | textEquals
  | textContains
  deriving DecidableEq, Repr

namespace Condition

/-- The condition with a name; blanks around the name do not count. -/
def ofText? (text : String) : Option Condition :=
  match Text.trimmed text with
  | "variable_equals" => some .variableEquals
  | "exists" => some .exists
  | "not_exists" => some .notExists
  | "text_equals" => some .textEquals
  | "text_contains" => some .textContains
  | _ => none

/-- The name of a condition in log records. -/
def label : Condition → String
  | .variableEquals => "VariableEquals"
  | .exists => "Exists"
  | .notExists => "NotExists"
  | .textEquals => "TextEquals"
  | .textContains => "TextContains"

/-- Whether a condition compares the text of an element. -/
def comparesText : Condition → Bool
  | .textEquals | .textContains => true
  | _ => false

/-- Whether a condition on an element holds of what has been found. -/
def holds (c : Condition) (found : Option Element) (expected : String) : Bool :=
  match c, found with
  | .exists, found => found.isSome
  | .notExists, found => found.isNone
  | .textEquals, some e => e.text = expected
  | .textContains, some e => Text.contains e.text expected
  | _, _ => false

end Condition

/-- A selector with the placeholders of its value replaced. -/
def Selector.substitute (s : Selector) (vars : Variables) : Selector :=
  { s with value := vars.substitute s.value }

/-- What a branch step says about its condition. -/
structure BranchParameters where
  condition : Option String
  selector : Option Selector
  variableName : Option String
  expectedValue : Option String
  deriving DecidableEq, Repr

/-- The condition that a branch step names. -/
def BranchParameters.kind (p : BranchParameters) : Attempt Condition := do
  let name ← Attempt.parameter "branch" "condition" p.condition
  match Condition.ofText? name with
  | some c => pure c
  | none => throw (.unknownCondition (Text.trimmed name))

/-- Compares a variable with a text; a variable without a value and a missing text are
    empty. -/
def BranchParameters.compareVariable (p : BranchParameters) (vars : Variables) :
    Attempt Bool := do
  let name ← Attempt.parameter "branch" "variable_name" p.variableName
  let actual := vars.getD name ""
  let expected := (p.expectedValue.map vars.substitute).getD ""
  Attempt.log (.debug .condition s!"variable_equals: {name}='{actual}' vs '{expected}'")
  return actual = expected

/-- Asks for an element of the screen. -/
def BranchParameters.askScreen (p : BranchParameters) (rig : Rig) (c : Condition)
    (vars : Variables) : Attempt Bool := do
  let selector ← Attempt.parameter "branch" "selector" p.selector
  let expected ←
    if c.comparesText then
      Attempt.parameter "branch" "expected_value" (p.expectedValue.map vars.substitute)
    else pure ""
  Attempt.require rig.hasScreen "snapshot provider"
  let selector := selector.substitute vars
  let found := (← Attempt.look).find? selector
  Attempt.log (.debug .condition s!"{c.label} {selector.text}: found={found.isSome}")
  return c.holds found expected

/-- The value of the condition of a branch step. -/
def BranchParameters.evaluate (p : BranchParameters) (rig : Rig) (vars : Variables) :
    Attempt Bool := do
  match ← p.kind with
  | .variableEquals => p.compareVariable vars
  | c => p.askScreen rig c vars

end DeviceFlow
