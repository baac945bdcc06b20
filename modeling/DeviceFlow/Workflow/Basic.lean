import DeviceFlow.Dict
import DeviceFlow.Timestamp
import DeviceFlow.Variables
import DeviceFlow.Workflow.Step

/-!
# Workflows

A workflow is a list of steps that refer to each other by their ids, with default values for
the variables of its runs. Steps are added and removed one by one; removing a step also
removes the connections that led to it.
-/

namespace DeviceFlow

/-- A workflow. -/
structure Workflow where
  id : String
  name : String
  /-- The values of variables that the caller of a run does not give. -/
  vars : Variables
  /-- The steps, in no particular order. -/
  steps : List Step
  createdAt : Option Timestamp
  updatedAt : Option Timestamp
  deriving DecidableEq

namespace Workflow

/-- A workflow without steps. -/
def new (id name : String) : Workflow :=
  ⟨id, name, Dict.empty, [], none, none⟩

/-- A workflow with the given steps; its id serves as its name. -/
def ofSteps (id : String) (steps : List Step) : Workflow :=
  { new id id with steps := steps }

/-- The step with an id. -/
def step? (w : Workflow) (id : String) : Option Step :=
  w.steps.find? (·.id = id)

/-- The step that a run reaches by an id: the last one that has it. -/
def target? (w : Workflow) (id : String) : Option Step :=
  w.steps.reverse.find? (·.id = id)

/-- The steps at which a run may begin. -/
def starts (w : Workflow) : List Step :=
  w.steps.filter (·.kind.isStart)

/-- The ids of the workflows that are called, without repetitions. -/
def calledIds (w : Workflow) : List String :=
  (w.steps.filterMap fun s =>
    match s.kind with
    | .subWorkflow id => id
    | _ => none).eraseDups

/-- Why a workflow cannot be edited in some way. -/
inductive EditError where
  /-- There is a step with the id of the new step already. -/
  | exists (id : String)
  /-- There is no step with the id. -/
  | notFound (id : String)
  deriving DecidableEq, Repr

/-- The text of an error. -/
def EditError.message : EditError → String
  | .exists id => s!"Step '{id}' already exists"
  | .notFound id => s!"Step '{id}' not found"

/-- Adds a step with a new id. -/
def addStep (w : Workflow) (s : Step) : Except EditError Workflow :=
  if w.steps.any (·.id = s.id) then .error (.exists s.id)
  else .ok { w with steps := w.steps ++ [s] }

/-- Cuts the connections of a step that lead to an id. -/
def disconnect (id : String) (s : Step) : Step :=
  { s with connections :=
      s.connections.map fun target => if target = some id then none else target }

/-- Removes the step with an id and the connections that lead to it. -/
def removeStep (w : Workflow) (id : String) : Except EditError Workflow :=
  if w.steps.any (·.id = id) then
    .ok { w with steps := (w.steps.eraseP (·.id = id)).map (disconnect id) }
  else .error (.notFound id)

/-- Gives the first step with an id another id; whether there is one. -/
def renameStep (w : Workflow) (id newId : String) : Bool × Workflow :=
  let rename : List Step → List Step :=
    fun steps =>
      steps.takeWhile (·.id ≠ id) ++
        match steps.dropWhile (·.id ≠ id) with
        | [] => []
        | s :: rest => { s with id := newId } :: rest
  (w.steps.any (·.id = id), { w with steps := rename w.steps })

/-- Sets a default. -/
def withVariable (w : Workflow) (name value : String) : Workflow :=
  { w with vars := w.vars.insert name value }

end Workflow

end DeviceFlow
