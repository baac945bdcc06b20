import DeviceFlow.Document.Node

/-!
# What is looked at

Whoever reads a document looks at some parts of it and passes over others. References are
followed only where somebody looks, but there each time anew, so that a short document can
stand for a very long one. How many references may be followed is therefore limited by the
number of marks and scalars that the document is made of.
-/

namespace DeviceFlow.Document

/-- What somebody looks at in a node. -/
inductive Interest where
  | nothing
  | whole
  /-- Something in each item of a list. -/
  | items (each : Interest)
  /-- The keys of a table, something under each of some of them, and something under all
      others. -/
  | fields (known : List (String × Interest)) (others : Interest)

/-- The same interest under several names. -/
def Interest.named (names : List String) (interest : Interest) : List (String × Interest) :=
  names.map (·, interest)

mutual

/-- How many marks and scalars a node is made of. -/
def Node.extent : Node → Nat
  | .scalar _ | .alias _ => 1
  | .list _ items => 2 + Node.itemsExtent items
  | .table _ entries => 2 + Node.entriesExtent entries

/-- How many marks and scalars items are made of. -/
def Node.itemsExtent : List Node → Nat
  | [] => 0
  | node :: rest => node.extent + Node.itemsExtent rest

/-- How many marks and scalars entries are made of. -/
def Node.entriesExtent : List (Node × Node) → Nat
  | [] => 0
  | (key, value) :: rest => key.extent + value.extent + Node.entriesExtent rest

end

/-- Follows a node itself if it is a reference, as long as there are some left to follow. -/
def Node.charge? (node : Node) (left : Nat) : Option Nat :=
  match node, left with
  | .alias _, 0 => none
  | .alias _, left + 1 => some left
  | _, left => some left

/-- How many references are left to follow after somebody has looked at a node of limited
    depth; none when there were not enough of them. -/
def follow? (doc : Document) : Nat → Interest → Node → Nat → Option Nat
  | 0, _, _, _ => none
  | _ + 1, .nothing, _, left => some left
  | depth + 1, interest, node, left => do
    let left ← node.charge? left
    match interest, doc.resolve node with
    | .whole, .list _ items =>
      items.foldlM (fun left item => follow? doc depth .whole item left) left
    | .whole, .table _ entries =>
      entries.foldlM (fun left (key, value) => do
        let left ← follow? doc depth .whole key left
        follow? doc depth .whole value left) left
    | .items each, .list _ items =>
      items.foldlM (fun left item => follow? doc depth each item left) left
    | .fields known others, .table _ entries =>
      entries.foldlM (fun left (key, value) => do
        let left ← follow? doc depth .whole key left
        let interest := ((doc.text? key).bind (find? · known)).getD others
        follow? doc depth interest value left) left
    | _, _ => some left

/-- How many references may be followed. -/
def maxReferences (doc : Document) : Nat := 100 * doc.root.extent

/-- Whether somebody may look at a document. Where nothing is named there is nothing to
    follow. -/
def admits (doc : Document) (interest : Interest) : Bool :=
  doc.anchors.isEmpty ||
    (follow? doc (doc.format.maxDepth + 2) interest doc.root doc.maxReferences).isSome

end DeviceFlow.Document
