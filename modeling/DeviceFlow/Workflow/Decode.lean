import DeviceFlow.Decimal.Power
import DeviceFlow.Document.Interest
import DeviceFlow.Workflow.Basic

/-!
# Workflows from documents

Which documents are workflows, and which workflow each of them is. The fields that all steps
have are read one by one from the document; everything else a step holds is loosened first,
and its kind is then read from the loose fields, so that a field of another kind is ignored
there, but has to be a proper value.
-/

namespace DeviceFlow

open Decimal (twoTo)
open Document (Interest Node Loose find?)

/-! ## Values -/

/-- A number as one of 32 bits. -/
def int32? (i : Int) : Option Int32 :=
  if -(twoTo 31 : Int) ≤ i ∧ i < twoTo 31 then some (Int32.ofInt i) else none

/-- A natural number as one of 64 bits. -/
def uint64? (n : Nat) : Option UInt64 :=
  if n < twoTo 64 then some (UInt64.ofNat n) else none

/-- The alternative with a name. -/
def named? {α : Type} (all : List α) (name : α → String) (s : String) : Option α :=
  all.find? fun a => name a = s

/-- The alternative that a loose value names. -/
def looseChoice? {α : Type} (all : List α) (name : α → String) (v : Loose) : Option α :=
  (v.choice? (all.map name)).bind (all[·]?)

/-- A field that may be missing or stand for nothing. -/
def optionalField? {α : Type} (read : Loose → Option α) (name : String)
    (fields : List (String × Loose)) : Option (Option α) :=
  match find? name fields with
  | none => some none
  | some v => v.optional? read

/-- A selector in a step. -/
def Selector.ofLoose? (v : Loose) : Option Selector := do
  let fields ← v.record? ["by", "value"]
  let kind ← (find? "by" fields).bind (looseChoice? SelectorKind.all SelectorKind.name)
  let value ← (find? "value" fields).bind Loose.text?
  return ⟨kind, value⟩

namespace StepKind

/-- The names of the kinds, in the order of their numbers. -/
def names : List String :=
  ["start", "tap", "swipe", "element", "app", "branch", "wait", "script", "set_variable",
    "read_to_variable", "shell", "sub_workflow", "key_event"]

/-- The name of the kind that a loose value gives; a name or number of no kind is a kind that
    is not supported. -/
def typeNameOf? : Loose → Option String
  | .atom (.text s) => some s
  | .atom (.int i) => if 0 ≤ i then some (names.getD i.toNat "unsupported") else none
  | _ => none

/-- The kind with a name, its parameters taken from loose fields. -/
def ofFields? (name : String) (fields : List (String × Loose)) : Option StepKind :=
  let text (field : String) (fs : List (String × Loose)) := optionalField? Loose.text? field fs
  let int (field : String) (fs : List (String × Loose)) :=
    optionalField? (fun v => v.integer?.bind int32?) field fs
  let millis (field : String) (fs : List (String × Loose)) :=
    optionalField? (fun v => v.natural?.bind uint64?) field fs
  let selector (fs : List (String × Loose)) := optionalField? Selector.ofLoose? "selector" fs
  match name with
  | "start" => some .start
  | "tap" => do
    let fs ← Document.known? ["x", "y"] fields
    return .tap (← int "x" fs) (← int "y" fs)
  | "swipe" => do
    let fs ← Document.known? ["x1", "y1", "x2", "y2", "duration_ms"] fields
    return .swipe (← int "x1" fs) (← int "y1" fs) (← int "x2" fs) (← int "y2" fs)
      (← millis "duration_ms" fs)
  | "element" => do
    let fs ← Document.known? ["action", "selector", "text", "direction"] fields
    return .element
      (← optionalField? (looseChoice? ElementActionKind.all ElementActionKind.name) "action" fs)
      (← selector fs) (← text "text" fs)
      (← optionalField? (looseChoice? Direction.all Direction.name) "direction" fs)
  | "app" => do
    let fs ← Document.known? ["action", "package"] fields
    return .app (← optionalField? (looseChoice? AppAction.all AppAction.name) "action" fs)
      (← text "package" fs)
  | "branch" => do
    let fs ← Document.known? ["condition", "selector", "variable_name", "expected_value"] fields
    return .branch (← text "condition" fs) (← selector fs) (← text "variable_name" fs)
      (← text "expected_value" fs)
  | "wait" => do
    let fs ← Document.known? ["duration_ms"] fields
    return .wait (← millis "duration_ms" fs)
  | "script" => do
    let fs ← Document.known? ["name"] fields
    return .script (← text "name" fs)
  | "set_variable" => do
    let fs ← Document.known? ["name", "value"] fields
    return .setVariable (← text "name" fs) (← text "value" fs)
  | "read_to_variable" => do
    let fs ← Document.known? ["name", "selector", "attribute"] fields
    let what ←
      match find? "attribute" fs with
      | none => some Attribute.text
      | some v => looseChoice? Attribute.all Attribute.name v
    return .readToVariable (← text "name" fs) (← selector fs) what
  | "shell" => do
    let fs ← Document.known? ["command", "save_to"] fields
    return .shell (← text "command" fs) (← text "save_to" fs)
  | "sub_workflow" => do
    let fs ← Document.known? ["workflow_id"] fields
    return .subWorkflow (← text "workflow_id" fs)
  | "key_event" => do
    let fs ← Document.known? ["key_code"] fields
    return .keyEvent (← int "key_code" fs)
  | _ => some .unsupported

end StepKind

/-- A field of a document that is present, or the default. -/
def fieldOr {α : Type} (default : α) (read : Node → Option α) (name : String)
    (fields : List (String × Node)) : Option α :=
  match find? name fields with
  | none => some default
  | some node => read node

/-- The fields of connections. -/
def Connections.fields : List String :=
  ["success_step_id", "error_step_id", "true_step_id", "false_step_id"]

/-- The connections of a step. -/
def Connections.ofNode? (doc : Document) (node : Node) : Option Connections := do
  let fields ← doc.record? Connections.fields node
  let target (name : String) := fieldOr none (doc.optional? doc.text?) name fields
  return ⟨← target "success_step_id", ← target "error_step_id", ← target "true_step_id",
    ← target "false_step_id"⟩

namespace Step

/-- The fields that all steps have. One of them has two names. -/
def commonFields : List String :=
  ["id", "loop_count", "loop", "pre_wait_ms", "post_delay_ms", "timeout_ms", "on_error",
    "connections"]

/-- What is looked at in a step: everything but unknown fields of its connections. -/
def interest : Interest :=
  .fields [("connections", .fields (Interest.named Connections.fields .whole) .nothing)] .whole

/-- A step of a document, at a depth that is left for its values. -/
def ofNode? (doc : Document) (depth : Nat) (node : Node) : Option Step := do
  let entries ←
    match doc.resolve node with
    | .list .. => none
    | _ => doc.entries? node
  let common ← Document.known? commonFields entries
  let loose ← (entries.filter fun e => !commonFields.contains e.1).mapM fun e =>
    (doc.loosen? depth e.2).map (e.1, ·)
  let id ← (find? "id" common).bind doc.text?
  let loopCount ←
    match find? "loop_count" common, find? "loop" common with
    | none, none => some 1
    | some n, none | none, some n => (doc.integer? n).bind int32?
    | some _, some _ => none
  let millis (name : String) :=
    fieldOr 0 (fun n => (doc.natural? n).bind uint64?) name common
  let kind ←
    match loose.filter (·.1 = "type") with
    | [(_, tag)] =>
      (StepKind.typeNameOf? tag).bind fun name =>
        StepKind.ofFields? name (loose.filter (·.1 ≠ "type"))
    | _ => none
  return {
    id := id
    kind := kind
    loopCount := loopCount
    preWaitMs := ← millis "pre_wait_ms"
    postDelayMs := ← millis "post_delay_ms"
    timeoutMs := ← fieldOr none
      (doc.optional? fun n => (doc.natural? n).bind uint64?) "timeout_ms" common
    onError := ← fieldOr .stop
      (fun n => (doc.choice? depth n).bind (named? FailurePolicy.all FailurePolicy.name))
      "on_error" common
    connections := ← fieldOr .empty (Connections.ofNode? doc) "connections" common }

end Step

/-- The variables of a workflow. -/
def Variables.ofNode? (doc : Document) (node : Node) : Option Variables := do
  let entries ← doc.entries? node
  let texts ← entries.mapM fun e => (doc.text? e.2).map (e.1, ·)
  return Dict.ofList texts

namespace Workflow

/-- The fields of a workflow. -/
def fields : List String := ["id", "name", "variables", "steps", "created_at", "updated_at"]

/-- What is looked at in a workflow. -/
def interest : Interest :=
  .fields (("steps", .items Step.interest) :: Interest.named fields .whole) .nothing

/-- The workflow of a tree, if it is one. -/
def ofTree? (doc : Document) : Option Workflow := do
  let fields ← doc.record? fields doc.root
  let id ← (find? "id" fields).bind doc.text?
  let steps ← (find? "steps" fields).bind doc.items?
  let stamp (name : String) :=
    fieldOr none (doc.optional? fun n => (doc.text? n).bind Timestamp.ofText?) name fields
  return {
    id := id
    name := ← fieldOr "" doc.text? "name" fields
    vars := ← fieldOr Dict.empty (Variables.ofNode? doc) "variables" fields
    steps := ← steps.mapM (Step.ofNode? doc (doc.format.maxDepth - 3))
    createdAt := ← stamp "created_at"
    updatedAt := ← stamp "updated_at" }

/-- The workflow of a document, if it is one. -/
def ofDocument? (doc : Document) : Option Workflow :=
  if doc.admits interest then ofTree? doc else none

end Workflow

end DeviceFlow
