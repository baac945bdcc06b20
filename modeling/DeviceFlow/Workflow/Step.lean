import DeviceFlow.Text.Blank

/-!
# Steps

A step of a workflow: what it does, how often and with which pauses, and where the run goes
next. Parameters may be missing, as a step that is still being written can be kept; it is
refused when it is to be executed.
-/

namespace DeviceFlow

/-- What a failure without a connection of its own means for the run. -/
inductive FailurePolicy where
  /-- The run ends. -/
  | stop
  /-- The run goes on as after a success. -/
  | proceed
  deriving DecidableEq, Repr

/-- The ids of the steps that may come next. -/
structure Connections where
  onSuccess : Option String
  onError : Option String
  /-- Of branch steps only. -/
  onTrue : Option String
  /-- Of branch steps only. -/
  onFalse : Option String
  deriving DecidableEq, Repr

/-- No connection at all. -/
def Connections.empty : Connections := ⟨none, none, none, none⟩

/-- A connection as it counts: an empty id is no connection. -/
def wired (id : Option String) : Option String :=
  id.filter (· ≠ "")

/-- The ids that the connections lead to. -/
def Connections.targets (c : Connections) : List String :=
  [c.onSuccess, c.onError, c.onTrue, c.onFalse].filterMap wired

/-- Applies a function to every connection. -/
def Connections.map (f : Option String → Option String) (c : Connections) : Connections :=
  ⟨f c.onSuccess, f c.onError, f c.onTrue, f c.onFalse⟩

/-- By what an element of the screen is found. -/
inductive SelectorKind where
  | text
  | resourceId
  | contentDesc
  | className
  | xpath
  deriving DecidableEq, Repr

/-- How an element of the screen is found. The value may hold placeholders. -/
structure Selector where
  kind : SelectorKind
  value : String
  deriving DecidableEq, Repr

/-- What is to be done with an element. -/
inductive ElementActionKind where
  | click
  | longClick
  | inputText
  | swipe
  | waitAppear
  | waitDisappear
  deriving DecidableEq, Repr

/-- The direction of a swipe over an element. -/
inductive Direction where
  | up
  | down
  | left
  | right
  deriving DecidableEq, Repr

/-- What is to be done with an app. -/
inductive AppAction where
  | launch
  | stop
  | clear
  | openSettings
  deriving DecidableEq, Repr

/-- The attribute of an element that is read into a variable. -/
inductive Attribute where
  | text
  | resourceId
  | contentDesc
  | className
  | bounds
  deriving DecidableEq, Repr

/-- What a step does, with its parameters. -/
inductive StepKind where
  | start
  | tap (x y : Option Int32)
  | swipe (x1 y1 x2 y2 : Option Int32) (durationMs : Option UInt64)
  | element (action : Option ElementActionKind) (selector : Option Selector)
      (text : Option String) (direction : Option Direction)
  | app (action : Option AppAction) (package : Option String)
  | branch (condition : Option String) (selector : Option Selector)
      (variableName expectedValue : Option String)
  | wait (durationMs : Option UInt64)
  | script (name : Option String)
  | setVariable (name value : Option String)
  | readToVariable (name : Option String) (selector : Option Selector) (what : Attribute)
  | shell (command saveTo : Option String)
  | subWorkflow (workflowId : Option String)
  | keyEvent (keyCode : Option Int32)
  /-- A kind that this library does not know. -/
  | unsupported
  deriving DecidableEq, Repr

/-- One node of a workflow's graph. -/
structure Step where
  id : String
  kind : StepKind
  /-- How often the step is repeated; a number below one counts as one. -/
  loopCount : Int32
  /-- The pause before each iteration. -/
  preWaitMs : UInt64
  /-- The pause after each iteration. -/
  postDelayMs : UInt64
  /-- The time that the step may take to find an element. -/
  timeoutMs : Option UInt64
  onError : FailurePolicy
  connections : Connections
  deriving DecidableEq, Repr

namespace FailurePolicy

/-- All policies. -/
def all : List FailurePolicy := [.stop, .proceed]

/-- The name of a policy in files. -/
def name : FailurePolicy → String
  | .stop => "stop"
  | .proceed => "continue"

end FailurePolicy

namespace SelectorKind

/-- All kinds, in the order of their numbers. -/
def all : List SelectorKind := [.text, .resourceId, .contentDesc, .className, .xpath]

/-- The name of a kind in files. -/
def name : SelectorKind → String
  | .text => "text"
  | .resourceId => "resource_id"
  | .contentDesc => "content_desc"
  | .className => "class_name"
  | .xpath => "xpath"

end SelectorKind

/-- A selector as it is shown in messages. -/
def Selector.text (s : Selector) : String :=
  s.kind.name ++ "=" ++ s.value

namespace ElementActionKind

/-- All actions, in the order of their numbers. -/
def all : List ElementActionKind :=
  [.click, .longClick, .inputText, .swipe, .waitAppear, .waitDisappear]

/-- The name of an action in files. -/
def name : ElementActionKind → String
  | .click => "click"
  | .longClick => "long_click"
  | .inputText => "input_text"
  | .swipe => "swipe"
  | .waitAppear => "wait_appear"
  | .waitDisappear => "wait_disappear"

end ElementActionKind

namespace Direction

/-- All directions, in the order of their numbers. -/
def all : List Direction := [.up, .down, .left, .right]

/-- The name of a direction in files. -/
def name : Direction → String
  | .up => "up"
  | .down => "down"
  | .left => "left"
  | .right => "right"

end Direction

namespace AppAction

/-- All actions, in the order of their numbers. -/
def all : List AppAction := [.launch, .stop, .clear, .openSettings]

/-- The name of an action in files. -/
def name : AppAction → String
  | .launch => "launch"
  | .stop => "stop"
  | .clear => "clear"
  | .openSettings => "open_settings"

/-- The name of an action in log records. -/
def label : AppAction → String
  | .launch => "Launch"
  | .stop => "Stop"
  | .clear => "Clear"
  | .openSettings => "OpenSettings"

end AppAction

namespace Attribute

/-- All attributes, in the order of their numbers. -/
def all : List Attribute := [.text, .resourceId, .contentDesc, .className, .bounds]

/-- The name of an attribute in files. -/
def name : Attribute → String
  | .text => "text"
  | .resourceId => "resource_id"
  | .contentDesc => "content_desc"
  | .className => "class_name"
  | .bounds => "bounds"

/-- The name of an attribute in log records. -/
def label : Attribute → String
  | .text => "Text"
  | .resourceId => "ResourceId"
  | .contentDesc => "ContentDesc"
  | .className => "ClassName"
  | .bounds => "Bounds"

end Attribute

namespace StepKind

/-- The name of a kind in files. -/
def typeName : StepKind → String
  | .start => "start"
  | .tap .. => "tap"
  | .swipe .. => "swipe"
  | .element .. => "element"
  | .app .. => "app"
  | .branch .. => "branch"
  | .wait .. => "wait"
  | .script .. => "script"
  | .setVariable .. => "set_variable"
  | .readToVariable .. => "read_to_variable"
  | .shell .. => "shell"
  | .subWorkflow .. => "sub_workflow"
  | .keyEvent .. => "key_event"
  | .unsupported => "unsupported"

/-- Whether a step evaluates a condition. -/
def isBranch : StepKind → Bool
  | .branch .. => true
  | _ => false

/-- Whether runs begin at a step. -/
def isStart : StepKind → Bool
  | .start => true
  | _ => false

end StepKind

namespace Step

/-- A step that runs once without pauses and leads nowhere. Blanks around the id are dropped. -/
def new (id : String) (kind : StepKind) : Step :=
  ⟨Text.trimmed id, kind, 1, 0, 0, none, .stop, .empty⟩

/-- Sets the connection after a success. -/
def andThen (s : Step) (id : String) : Step :=
  { s with connections := { s.connections with onSuccess := some id } }

/-- Sets the connection after a failure. -/
def onFailure (s : Step) (id : String) : Step :=
  { s with connections := { s.connections with onError := some id } }

/-- Sets the connections after a condition. -/
def branches (s : Step) (whenTrue whenFalse : String) : Step :=
  { s with
    connections := { s.connections with onTrue := some whenTrue, onFalse := some whenFalse } }

/-- How often a step is executed each time the run reaches it. -/
def iterations (s : Step) : Nat :=
  max s.loopCount.toInt 1 |>.toNat

/-- The name of what a step does. -/
def typeName (s : Step) : String := s.kind.typeName

end Step

end DeviceFlow
