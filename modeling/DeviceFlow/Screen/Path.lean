import DeviceFlow.Screen.Basic
import DeviceFlow.Text.Blank
import DeviceFlow.Text.Search

/-!
# Paths

A path names an element anywhere on the screen by its class, or by any class with `*`, and
possibly by the value of one attribute: `//Class`, `//Class[@text='value']`. There is no other
kind of path.
-/

namespace DeviceFlow

/-- What a path asks of an element. -/
structure Path where
  /-- The class; none allows every class. -/
  className : Option String
  /-- The name of an attribute and its value. -/
  condition : Option (String × String)
  deriving DecidableEq, Repr

/-- The attribute with a name; most have a name with a hyphen and another without. -/
def Attribute.ofPathName? (name : String) : Option Attribute :=
  match name with
  | "text" => some .text
  | "resource-id" | "resource_id" => some .resourceId
  | "content-desc" | "content_desc" => some .contentDesc
  | "class" | "class_name" => some .className
  | "bounds" => some .bounds
  | _ => none

namespace Path

/-- What stands between two marks of one kind at the ends of a text. -/
def unquote? (mark : Char) (cs : List Char) : Option (List Char) :=
  (Text.afterStart? [mark] cs).bind (Text.beforeEnd? [mark])

/-- Reads the condition from what follows its opening bracket. -/
def condition? (cs : List Char) : Option (String × String) := do
  let inner ← (Text.afterStart? ['@'] cs).bind (Text.beforeEnd? [']'])
  let (name, value) ← Text.cut? ['='] inner
  let value := Text.trim value
  let value ← (unquote? '\'' value).orElse fun _ => unquote? '"' value
  return (String.ofList (Text.trim name), String.ofList value)

/-- Reads a path. Blanks around it are ignored. -/
def ofText? (text : String) : Option Path := do
  let rest ← Text.afterStart? ['/', '/'] (Text.trim text.toList)
  let (className, condition) ←
    match Text.cut? ['['] rest with
    | some (className, inner) => (condition? inner).map fun c => (className, some c)
    | none => some (rest, none)
  if className.isEmpty then none
  else return ⟨if className = ['*'] then none else some (String.ofList className), condition⟩

/-- Whether an element is what a path asks for. No element has an attribute of an unknown
    name. -/
def admits (p : Path) (e : Element) : Bool :=
  (match p.className with
    | none => true
    | some name => e.className = name) &&
  match p.condition with
  | none => true
  | some (name, value) => (Attribute.ofPathName? name).map e.get = some value

end Path

namespace Screen

/-- The first element that a path names. A text that is no path names none. -/
def findPath? (s : Screen) (text : String) : Option Element :=
  (Path.ofText? text).bind fun p => s.first? p.admits

/-- The first element that a selector finds: the one with exactly the value, or the one that
    the path names. -/
def find? (s : Screen) (selector : Selector) : Option Element :=
  let value := selector.value
  match selector.kind with
  | .text => s.first? (·.text = value)
  | .resourceId => s.first? (·.resourceId = value)
  | .contentDesc => s.first? (·.contentDesc = value)
  | .className => s.first? (·.className = value)
  | .xpath => s.findPath? value

end Screen

end DeviceFlow
