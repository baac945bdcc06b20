import DeviceFlow.Document.Value
import DeviceFlow.Document.Yaml.Reader
import DeviceFlow.Text.Blank
import DeviceFlow.Workflow.Decode

/-!
# Settings

The limits and defaults of every run. All of them have a default, so a file of settings holds
only those that differ, and an empty file is one as well.
-/

namespace DeviceFlow

open Document (Interest Node Value)

/-- Which variables a called workflow works on. -/
inductive VariableScope where
  /-- Those of the caller. -/
  | shared
  /-- A copy that is dropped when the called workflow ends. -/
  | isolated
  deriving DecidableEq, Repr

namespace VariableScope

/-- All scopes. -/
def all : List VariableScope := [.shared, .isolated]

/-- The name of a scope in files. -/
def name : VariableScope → String
  | .shared => "shared"
  | .isolated => "isolated"

end VariableScope

/-- The limits and defaults of a run. Times are in milliseconds. -/
structure Settings where
  /-- How many steps a run may dispatch, those of called workflows included. -/
  maxSteps : Nat
  /-- How deep calls of workflows may be nested. -/
  maxNestingDepth : Nat
  /-- The time to find an element in when the step does not say it. -/
  elementTimeoutMs : Nat
  /-- The duration of a swipe when the step does not say it. -/
  swipeDurationMs : Nat
  /-- The pause between two looks at the screen while an element is awaited. -/
  pollIntervalMs : Nat
  scope : VariableScope
  deriving DecidableEq, Repr

namespace Settings

/-- The settings that hold when nothing else is said. -/
def default : Settings := ⟨2000, 10, 5000, 300, 500, .shared⟩

instance : Inhabited Settings := ⟨default⟩

/-- The names of the settings in files. -/
def fields : List String :=
  ["max_steps", "max_nesting_depth", "default_element_timeout_ms", "default_swipe_duration_ms",
    "poll_interval_ms", "sub_workflow_scope"]

/-- The settings of a tree, if it holds settings. -/
def ofTree? (doc : Document) : Option Settings := do
  let fields ← doc.record? fields doc.root
  let number (name : String) (value : Nat) := fieldOr value doc.natural? name fields
  return {
    maxSteps := ← number "max_steps" default.maxSteps
    maxNestingDepth := ← number "max_nesting_depth" default.maxNestingDepth
    elementTimeoutMs := ← number "default_element_timeout_ms" default.elementTimeoutMs
    swipeDurationMs := ← number "default_swipe_duration_ms" default.swipeDurationMs
    pollIntervalMs := ← number "poll_interval_ms" default.pollIntervalMs
    scope := ← fieldOr default.scope
      (fun n => (doc.choice? doc.format.maxDepth n).bind
        (named? VariableScope.all VariableScope.name)) "sub_workflow_scope" fields }

/-- The settings of a document, if it holds settings. -/
def ofDocument? (doc : Document) : Option Settings :=
  if doc.admits (.fields (Interest.named fields .whole) .nothing) then ofTree? doc else none

/-- The settings of a text. A text of blanks changes none of the defaults. -/
def ofText? (text : String) : Option Settings :=
  if Text.isBlankText text then some default
  else (Document.Yaml.read? text).bind ofDocument?

/-- Settings as a document. -/
def encode (s : Settings) : Value :=
  .table
    [("max_steps", .int s.maxSteps), ("max_nesting_depth", .int s.maxNestingDepth),
      ("default_element_timeout_ms", .int s.elementTimeoutMs),
      ("default_swipe_duration_ms", .int s.swipeDurationMs),
      ("poll_interval_ms", .int s.pollIntervalMs), ("sub_workflow_scope", .text s.scope.name)]

end Settings

end DeviceFlow
