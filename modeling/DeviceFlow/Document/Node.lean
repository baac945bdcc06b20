/-!
# Documents as they are read

A document is a tree of scalars, lists and tables. What a scalar is depends on what is asked
of it: the same three characters are a text where a text is wanted and a number where a number
is. So a scalar carries its readings, one for each question, and the two formats differ in how
they fill them in. Where the reader of a document wants nothing in particular, the node is
loosened into a tree of plain values.
-/

namespace DeviceFlow.Document

/-- The text formats of documents. -/
inductive Format where
  | json
  | yaml
  deriving DecidableEq, Repr

/-- The deepest nesting of lists and tables that is read. -/
def Format.maxDepth : Format → Nat
  | .json => 127
  | .yaml => 128

/-- What a scalar is by itself. -/
inductive Atom where
  | null
  | bool (value : Bool)
  | int (value : Int)
  /-- Zero with a minus sign. It is an integer, but not the number of anything. -/
  | minusZero
  | float
  | text (value : String)
  deriving DecidableEq, Repr

/-- A scalar, given by the answers to what may be asked of it. A missing answer is a
    refusal. -/
structure Scalar where
  /-- The text, where a text is wanted. -/
  text : Option String
  /-- Whether there is anything at all, where a value may be left out. -/
  present : Option Bool
  /-- The number, where a natural number of 64 bits is wanted. -/
  natural : Option Nat
  /-- The number, where an integer is wanted. -/
  integer : Option Int
  /-- The name, where one of several names is wanted. -/
  choice : Option String
  /-- What it is by itself. -/
  atom : Option Atom
  /-- Whether it can stand for a list or table without items. -/
  isHollow : Bool
  deriving DecidableEq, Repr

/-- A scalar that refuses every reading. -/
def Scalar.unreadable : Scalar := ⟨none, none, none, none, none, none, false⟩

/-- A tree of a document. Lists and tables may be marked with a name of their own, and a node
    may refer to a node that was named elsewhere in the document. -/
inductive Node where
  | scalar (s : Scalar)
  | list (marked : Bool) (items : List Node)
  | table (marked : Bool) (entries : List (Node × Node))
  | alias (anchor : Nat)

instance : Inhabited Node := ⟨.scalar .unreadable⟩

/-- A tree in which every scalar is what it is by itself. -/
inductive Loose where
  | atom (a : Atom)
  | list (items : List Loose)
  | table (entries : List (Loose × Loose))

end Document

/-- A document: its format, its tree, and the nodes that have been named in it. -/
structure Document where
  format : Document.Format
  root : Document.Node
  anchors : Array Document.Node

namespace Document

/-- Follows a reference. A named node is never a reference itself. -/
def resolve (doc : Document) : Node → Node
  | .alias anchor => doc.anchors.getD anchor default
  | node => node

/-- The text of a node, where a text is wanted. -/
def text? (doc : Document) (node : Node) : Option String :=
  match doc.resolve node with
  | .scalar s => s.text
  | _ => none

/-- The value of a node, where a natural number is wanted. -/
def natural? (doc : Document) (node : Node) : Option Nat :=
  match doc.resolve node with
  | .scalar s => s.natural
  | _ => none

/-- The value of a node, where an integer is wanted. -/
def integer? (doc : Document) (node : Node) : Option Int :=
  match doc.resolve node with
  | .scalar s => s.integer
  | _ => none

/-- The value of a node that may stand for nothing. -/
def optional? {α : Type} (doc : Document) (read : Node → Option α) (node : Node) :
    Option (Option α) :=
  match doc.resolve node with
  | .scalar s =>
    match s.present with
    | none => none
    | some false => some none
    | some true => (read node).map some
  | _ => (read node).map some

/-- The items of a node, where a list is wanted. -/
def items? (doc : Document) (node : Node) : Option (List Node) :=
  match doc.resolve node with
  | .list _ items => some items
  | .scalar s => if s.isHollow then some [] else none
  | _ => none

/-- The entries of a node, where a table with texts as keys is wanted. -/
def entries? (doc : Document) (node : Node) : Option (List (String × Node)) :=
  match doc.resolve node with
  | .table _ entries => entries.mapM fun (key, value) => (doc.text? key).map (·, value)
  | .scalar s => if s.isHollow then some [] else none
  | _ => none

/-- The value of a node, where one of several names is wanted. In the format without marks a
    table whose only entry is a name with nothing under it says the same as the name. -/
def choice? (doc : Document) (depth : Nat) (node : Node) : Option String :=
  match doc.resolve node with
  | .scalar s => s.choice
  | .table _ [(key, value)] =>
    match doc.format, doc.resolve value with
    | .json, .scalar s => if s.atom = some .null ∧ 0 < depth then doc.text? key else none
    | _, _ => none
  | _ => none

/-- The first value under a name. -/
def find? {α : Type} (name : String) (fields : List (String × α)) : Option α :=
  (fields.find? (·.1 = name)).map (·.2)

/-- Keeps the fields that have one of the given names; none of them may come twice. -/
def known? {α : Type} (names : List String) (fields : List (String × α)) :
    Option (List (String × α)) :=
  let kept := fields.filter fun e => names.contains e.1
  if (kept.map (·.1)).Nodup then some kept else none

/-- The fields of a node, where a record with fields of these names is wanted. Fields of other
    names are ignored. In the format without marks a list stands for a record as well, its
    items in the order of the names. -/
def record? (doc : Document) (names : List String) (node : Node) :
    Option (List (String × Node)) :=
  match doc.format, doc.resolve node with
  | .json, .list _ items => if items.length ≤ names.length then some (names.zip items) else none
  | .yaml, .list .. => none
  | _, _ => (doc.entries? node).bind (known? names)

/-- Loosens a node of limited depth. A mark on a list or table is refused. -/
def loosen? (doc : Document) : Nat → Node → Option Loose
  | 0, node =>
    match doc.resolve node with
    | .scalar s => s.atom.map .atom
    | _ => none
  | depth + 1, node =>
    match doc.resolve node with
    | .scalar s => s.atom.map .atom
    | .list false items => (items.mapM (loosen? doc depth)).map .list
    | .table false entries =>
      (entries.mapM fun (key, value) => do
        return (← loosen? doc depth key, ← loosen? doc depth value)).map .table
    | _ => none

namespace Loose

/-- The text of a loose value that is one. -/
def text? : Loose → Option String
  | .atom (.text s) => some s
  | _ => none

/-- The value of a loose value that is a natural number of 64 bits. -/
def natural? : Loose → Option Nat
  | .atom (.int i) => if 0 ≤ i then some i.toNat else none
  | .atom .minusZero => some 0
  | _ => none

/-- The value of a loose value that is an integer. -/
def integer? : Loose → Option Int
  | .atom (.int i) => some i
  | .atom .minusZero => some 0
  | _ => none

/-- A loose value that may stand for nothing. -/
def optional? {α : Type} (read : Loose → Option α) : Loose → Option (Option α)
  | .atom .null => some none
  | v => (read v).map some

/-- The place that a loose value names among several names: by the name, or by its number. -/
def chosen? (names : List String) : Loose → Option Nat
  | .atom (.text s) => names.idxOf? s
  | .atom (.int i) => if 0 ≤ i ∧ i < names.length then some i.toNat else none
  | _ => none

/-- Whether a loose value says nothing. -/
def isNothing : Loose → Bool
  | .atom .null => true
  | .table [] => true
  | _ => false

/-- The place of a name, where one of several names is wanted: the name itself, or a table
    whose only entry is the name or its number with nothing under it. -/
def choice? (names : List String) : Loose → Option Nat
  | .atom (.text s) => names.idxOf? s
  | .table [(key, value)] => if value.isNothing then chosen? names key else none
  | _ => none

/-- The name of a field, given by the name or by its number among the names. -/
def fieldName? (names : List String) : Loose → Option String
  | .atom (.text s) => some s
  | .atom (.int i) => if 0 ≤ i then some (names.getD i.toNat "") else none
  | _ => none

/-- The fields of a loose value, where a record with fields of these names is wanted. A list
    stands for a record, its items in the order of the names. -/
def record? (names : List String) : Loose → Option (List (String × Loose))
  | .list items => if items.length ≤ names.length then some (names.zip items) else none
  | .table entries =>
    (entries.mapM fun e => (fieldName? names e.1).map fun name => (name, e.2)).bind (known? names)
  | _ => none

end Loose

end Document

end DeviceFlow
