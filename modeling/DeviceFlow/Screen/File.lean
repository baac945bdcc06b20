import DeviceFlow.Document.Value
import DeviceFlow.Files.FileSystem
import DeviceFlow.Screen.Basic
import DeviceFlow.Workflow.Text

/-!
# Screens in files

Which documents are captured screens, and how a screen is written. The attributes of an element that
are missing are empty. A captured screen is read from a file in one of the two formats of documents;
only the extension in small letters stands for the format that is not native.
-/

namespace DeviceFlow

open Document (Interest Node Value)

/-- The fields of an element. -/
def Element.fields : List String :=
  ["text", "resource_id", "content_desc", "class_name", "bounds", "children"]

/-- The attributes of an element. -/
def Element.ofFields? (doc : Document) (fields : List (String × Node)) : Option Element := do
  let text (name : String) := fieldOr "" doc.text? name fields
  return {
    text := ← text "text"
    resourceId := ← text "resource_id"
    contentDesc := ← text "content_desc"
    className := ← text "class_name"
    bounds := ← text "bounds" }

/-- Reads an element with the elements inside it, in a document that may be nested as deep as
    the number says. The elements inside are two levels deeper, as they are in a list. -/
def ScreenNode.ofNode? (doc : Document) : Nat → Node → Option ScreenNode
  | 0, _ => none
  | 1, node => do
    let fields ← doc.record? Element.fields node
    if (Document.find? "children" fields).isSome then none
    else return ⟨← Element.ofFields? doc fields, []⟩
  | depth + 2, node => do
    let fields ← doc.record? Element.fields node
    let element ← Element.ofFields? doc fields
    let items ← fieldOr [] doc.items? "children" fields
    return ⟨element, ← items.mapM (ScreenNode.ofNode? doc depth)⟩

/-- What is looked at in an element with a number of elements around each other in it. -/
def ScreenNode.interest : Nat → Interest
  | 0 => .nothing
  | depth + 1 =>
    .fields (("children", .items (interest depth)) :: Interest.named Element.fields .whole) .nothing

/-- The screen of a tree, if it is one. -/
def Screen.ofTree? (doc : Document) : Option Screen := do
  let fields ← doc.record? ["nodes"] doc.root
  let items ← (Document.find? "nodes" fields).bind doc.items?
  return ⟨← items.mapM (ScreenNode.ofNode? doc (doc.format.maxDepth - 2))⟩

/-- The screen of a document, if it is one. -/
def Screen.ofDocument? (doc : Document) : Option Screen :=
  let interest : Interest :=
    .fields [("nodes", .items (ScreenNode.interest doc.format.maxDepth))] .nothing
  if doc.admits interest then Screen.ofTree? doc else none

/-- The attributes of an element as they are written. -/
def Element.encode (e : Element) : List (String × Value) :=
  [("text", .text e.text), ("resource_id", .text e.resourceId),
    ("content_desc", .text e.contentDesc), ("class_name", .text e.className),
    ("bounds", .text e.bounds)]

mutual

/-- An element with those inside it; the list of those inside is left out when it is empty. -/
def ScreenNode.encode : ScreenNode → Value
  | ⟨element, []⟩ => .table element.encode
  | ⟨element, child :: children⟩ =>
    .table (element.encode ++ [("children", .list (child.encode :: encodeNodes children))])

/-- Several elements. -/
def encodeNodes : List ScreenNode → List Value
  | [] => []
  | node :: rest => node.encode :: encodeNodes rest

end

/-- A screen. -/
def Screen.encode (s : Screen) : Value :=
  .table [("nodes", .list (encodeNodes s.nodes))]

/-- Why a screen cannot be loaded from a file. -/
inductive ScreenError where
  | unreadable (path : String) (cause : Files.FileError)
  | noScreen
  deriving DecidableEq, Repr

/-- The text of an error. -/
def ScreenError.message : ScreenError → String
  | .unreadable path cause => s!"Failed to read snapshot '{path}': " ++ cause.message
  | .noScreen => "..."

/-- Loads the screen in a file. -/
def Screen.loadFile (fs : FileSystem) (path : String) : Except ScreenError Screen :=
  match fs.read path with
  | .error e => .error (.unreadable path e)
  | .ok text =>
    let format := if Files.extension? path = some "json" then .json else .yaml
    match (Document.ofText? format text).bind Screen.ofDocument? with
    | some screen => .ok screen
    | none => .error .noScreen

end DeviceFlow
