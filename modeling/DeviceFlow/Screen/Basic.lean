import DeviceFlow.Workflow.Step

/-!
# Screens

What a device shows, as a forest of elements. Searches go through the elements in document
order, each one before those inside it, and stop at the first that fits.
-/

namespace DeviceFlow

/-- One element of a screen, without those inside it. -/
structure Element where
  text : String
  resourceId : String
  contentDesc : String
  className : String
  /-- The corners of the element, as the device reports them. -/
  bounds : String
  deriving DecidableEq, Repr

/-- The value of an attribute. -/
def Element.get (e : Element) : Attribute → String
  | .text => e.text
  | .resourceId => e.resourceId
  | .contentDesc => e.contentDesc
  | .className => e.className
  | .bounds => e.bounds

/-- An element with the elements inside it. -/
structure ScreenNode where
  element : Element
  children : List ScreenNode

instance : Inhabited ScreenNode := ⟨⟨⟨"", "", "", "", ""⟩, []⟩⟩

/-- What a device shows at one moment. -/
structure Screen where
  nodes : List ScreenNode

mutual

/-- The elements of a node in document order. -/
def ScreenNode.elements : ScreenNode → List Element
  | ⟨element, children⟩ => element :: elementsOf children

/-- The elements of several nodes in document order. -/
def elementsOf : List ScreenNode → List Element
  | [] => []
  | node :: rest => node.elements ++ elementsOf rest

end

/-- The elements of a screen in document order. -/
def Screen.elements (s : Screen) : List Element := elementsOf s.nodes

/-- The first element of a screen that satisfies a condition. -/
def Screen.first? (s : Screen) (p : Element → Bool) : Option Element :=
  s.elements.find? p

end DeviceFlow
