import DeviceFlow.Document.Yaml.Scalar
import DeviceFlow.Document.Yaml.Scanner

/-!
# Reading YAML

The tokens of a YAML text are read into a tree by recursive descent: block and flow
collections, with empty scalars where a key, a value or an entry is missing. A text holds at
most one document. Between two tokens there are at most three calls, so four calls for every
token are enough.
-/

namespace DeviceFlow.Document.Yaml

/-- The nodes that have been named so far. -/
structure Anchors where
  /-- The place of the latest node of each name. -/
  places : List (String × Nat)
  /-- How many nodes have been named. -/
  count : Nat
  /-- The nodes by place, each with the number of named nodes that have begun before it. -/
  nodes : Array (Nat × Node)

namespace Anchors

/-- No names. -/
def empty : Anchors := ⟨[], 0, #[]⟩

/-- Gives a name to the node that begins next, and tells its place and its number. The place is
    the number of names known before. So a name that is given again takes a new place, which the
    next new name will take over. -/
def reserve (a : Anchors) (name : String) : (Nat × Nat) × Anchors :=
  let place := a.places.length
  let missing := place + 1 - a.nodes.size
  let nodes := a.nodes ++ Array.replicate missing (0, default)
  ((place, a.count),
    { places := (name, place) :: a.places.filter (·.1 ≠ name)
      count := a.count + 1
      nodes := nodes.setIfInBounds place (a.count, default) })

/-- Puts a node in its place, unless another one that has begun later has taken it over. -/
def fill (a : Anchors) (place number : Nat) (node : Node) : Anchors :=
  match a.nodes[place]? with
  | some (latest, _) =>
    if latest = number then { a with nodes := a.nodes.setIfInBounds place (number, node) } else a
  | none => a

/-- The place of a name. -/
def place? (a : Anchors) (name : String) : Option Nat :=
  (a.places.find? (·.1 = name)).map (·.2)

end Anchors

/-- The handles of tags with what they stand for. -/
abbrev Handles := List (String × Tag)

/-- The handles that need no directive. -/
def defaultHandles : Handles := [("!", .mark), ("!!", .core "")]

/-- The tag that a handle and a suffix make; none when the handle stands for nothing. -/
def resolveTag? (handles : Handles) (handle : String) (suffix : Tag) : Option Tag :=
  if handle.isEmpty then some suffix
  else (handles.find? (·.1 = handle)).map fun h => h.2.append suffix

/-- What may stand before a node. -/
structure Properties where
  anchor : Option String
  tag : Option Tag

/-- Reads the anchor and the tag before a node, in either order. -/
def properties? (handles : Handles) : List Token → Option (Properties × List Token)
  | .anchor name :: .tag handle suffix :: rest
  | .tag handle suffix :: .anchor name :: rest =>
    (resolveTag? handles handle suffix).map fun t => (⟨some name, some t⟩, rest)
  | .anchor name :: rest => some (⟨some name, none⟩, rest)
  | .tag handle suffix :: rest =>
    (resolveTag? handles handle suffix).map fun t => (⟨none, some t⟩, rest)
  | ts => some (⟨none, none⟩, ts)

/-- The scalar that stands for something missing. -/
def missing : Node := .scalar (scalar "" .plain none)

/-- Whether a collection is marked with a tag of the document's own. -/
def isMarked (tag : Option Tag) : Bool := (ownName? tag).isSome

/-- What has been read, with the names known after it and the tokens that are left. -/
abbrev Read (α : Type) := α × Anchors × List Token

/-- The tokens after the mark between two items of a flow collection, which the first item goes
    without. -/
def afterEntryMark? (isFirst : Bool) (ts : List Token) : Option (List Token) :=
  if isFirst then some ts
  else
    match ts with
    | .flowEntry :: rest => some rest
    | _ => none

/-- A node without content, which has at least a property. -/
def absent? (p : Properties) (a : Anchors) (ts : List Token) : Option (Read Node) :=
  if p.anchor.isSome || p.tag.isSome then
    some (.scalar (scalar "" .plain p.tag), a, ts)
  else none

mutual

/-- Reads a node. Block collections are allowed only `inBlock`, and a sequence that is not
    indented only as a value or key of a block mapping. -/
def node? (handles : Handles) (inBlock indentless : Bool) :
    Nat → Anchors → List Token → Option (Read Node)
  | 0, _, _ => none
  | fuel + 1, a, ts =>
    match ts with
    | .alias name :: rest => (a.place? name).map fun place => (.alias place, a, rest)
    | _ => do
      let (p, rest) ← properties? handles ts
      match p.anchor with
      | some name =>
        let ((place, number), a) := a.reserve name
        let (node, a, rest) ← content? handles inBlock indentless p fuel a rest
        return (node, a.fill place number node, rest)
      | none => content? handles inBlock indentless p fuel a rest

/-- Reads what follows the properties of a node. -/
def content? (handles : Handles) (inBlock indentless : Bool) (p : Properties) :
    Nat → Anchors → List Token → Option (Read Node)
  | 0, _, _ => none
  | fuel + 1, a, ts =>
    match ts with
    | .scalar text style :: rest => some (.scalar (scalar text style p.tag), a, rest)
    | .flowSequenceStart :: rest => do
      let (items, a, rest) ← flowEntries? handles true [] fuel a rest
      return (.list (isMarked p.tag) items, a, rest)
    | .flowMappingStart :: rest => do
      let (entries, a, rest) ← flowPairs? handles true [] fuel a rest
      return (.table (isMarked p.tag) entries, a, rest)
    | .blockEntry :: _ =>
      if indentless then do
        let (items, a, rest) ← indentlessEntries? handles [] fuel a ts
        return (.list (isMarked p.tag) items, a, rest)
      else absent? p a ts
    | .blockSequenceStart :: rest =>
      if inBlock then do
        let (items, a, rest) ← blockEntries? handles [] fuel a rest
        return (.list (isMarked p.tag) items, a, rest)
      else absent? p a ts
    | .blockMappingStart :: rest =>
      if inBlock then do
        let (entries, a, rest) ← blockPairs? handles [] fuel a rest
        return (.table (isMarked p.tag) entries, a, rest)
      else absent? p a ts
    | _ => absent? p a ts

/-- Reads the entries of a block sequence after those in `items`, which are in reverse. -/
def blockEntries? (handles : Handles) (items : List Node) :
    Nat → Anchors → List Token → Option (Read (List Node))
  | 0, _, _ => none
  | fuel + 1, a, ts =>
    match ts with
    | .blockEntry :: rest => do
      let (item, a, rest) ←
        match rest with
        | .blockEntry :: _ | .blockEnd :: _ => some (missing, a, rest)
        | _ => node? handles true false fuel a rest
      blockEntries? handles (item :: items) fuel a rest
    | .blockEnd :: rest => some (items.reverse, a, rest)
    | _ => none

/-- Reads the entries of a block sequence that is not indented. -/
def indentlessEntries? (handles : Handles) (items : List Node) :
    Nat → Anchors → List Token → Option (Read (List Node))
  | 0, _, _ => none
  | fuel + 1, a, ts =>
    match ts with
    | .blockEntry :: rest => do
      let (item, a, rest) ←
        match rest with
        | .blockEntry :: _ | .key :: _ | .value :: _ | .blockEnd :: _ => some (missing, a, rest)
        | _ => node? handles true false fuel a rest
      indentlessEntries? handles (item :: items) fuel a rest
    | _ => some (items.reverse, a, ts)

/-- Reads a key or a value of a block mapping. -/
def blockItem? (handles : Handles) : Nat → Anchors → List Token → Option (Read Node)
  | 0, _, _ => none
  | fuel + 1, a, ts =>
    match ts with
    | .key :: _ | .value :: _ | .blockEnd :: _ => some (missing, a, ts)
    | _ => node? handles true true fuel a ts

/-- Reads the pairs of a block mapping. -/
def blockPairs? (handles : Handles) (entries : List (Node × Node)) :
    Nat → Anchors → List Token → Option (Read (List (Node × Node)))
  | 0, _, _ => none
  | fuel + 1, a, ts =>
    match ts with
    | .key :: rest => do
      let (key, a, rest) ← blockItem? handles fuel a rest
      let (value, a, rest) ←
        match rest with
        | .value :: rest => blockItem? handles fuel a rest
        | _ => some (missing, a, rest)
      blockPairs? handles ((key, value) :: entries) fuel a rest
    | .blockEnd :: rest => some (entries.reverse, a, rest)
    | _ => none

/-- Reads the entries of a flow sequence. A pair among them is a mapping of its own. -/
def flowEntries? (handles : Handles) (isFirst : Bool) (items : List Node) :
    Nat → Anchors → List Token → Option (Read (List Node))
  | 0, _, _ => none
  | fuel + 1, a, ts =>
    match ts with
    | .flowSequenceEnd :: rest => some (items.reverse, a, rest)
    | _ => do
      let ts ← afterEntryMark? isFirst ts
      match ts with
      | .flowSequenceEnd :: rest => some (items.reverse, a, rest)
      | .key :: rest =>
        let (pair, a, rest) ← flowPair? handles fuel a rest
        flowEntries? handles false (.table false [pair] :: items) fuel a rest
      | _ =>
        let (item, a, rest) ← node? handles false false fuel a ts
        flowEntries? handles false (item :: items) fuel a rest

/-- Reads the single pair of a mapping in a flow sequence, after the mark of its key. Where the
    key is missing the next token is passed over. -/
def flowPair? (handles : Handles) : Nat → Anchors → List Token → Option (Read (Node × Node))
  | 0, _, _ => none
  | fuel + 1, a, ts => do
    let (key, a, rest) ←
      match ts with
      | .value :: rest | .flowEntry :: rest | .flowSequenceEnd :: rest => some (missing, a, rest)
      | _ => node? handles false false fuel a ts
    match rest with
    | .value :: rest =>
      match rest with
      | .flowEntry :: _ | .flowSequenceEnd :: _ => some ((key, missing), a, rest)
      | _ =>
        let (value, a, rest) ← node? handles false false fuel a rest
        return ((key, value), a, rest)
    | _ => some ((key, missing), a, rest)

/-- Reads a key or a value of a flow mapping. -/
def flowItem? (handles : Handles) (isKey : Bool) : Nat → Anchors → List Token → Option (Read Node)
  | 0, _, _ => none
  | fuel + 1, a, ts =>
    match ts, isKey with
    | .value :: _, true | .flowEntry :: _, _ | .flowMappingEnd :: _, _ => some (missing, a, ts)
    | _, _ => node? handles false false fuel a ts

/-- Reads the pairs of a flow mapping. -/
def flowPairs? (handles : Handles) (isFirst : Bool) (entries : List (Node × Node)) :
    Nat → Anchors → List Token → Option (Read (List (Node × Node)))
  | 0, _, _ => none
  | fuel + 1, a, ts =>
    match ts with
    | .flowMappingEnd :: rest => some (entries.reverse, a, rest)
    | _ => do
      let ts ← afterEntryMark? isFirst ts
      match ts with
      | .flowMappingEnd :: rest => some (entries.reverse, a, rest)
      | .key :: rest =>
        let (key, a, rest) ← flowItem? handles true fuel a rest
        let (value, a, rest) ←
          match rest with
          | .value :: rest => flowItem? handles false fuel a rest
          | _ => some (missing, a, rest)
        flowPairs? handles false ((key, value) :: entries) fuel a rest
      | _ =>
        let (key, a, rest) ← node? handles false false fuel a ts
        flowPairs? handles false ((key, missing) :: entries) fuel a rest

end

/-- Reads the directives before a document: at most one version, which has to be known, and
    handles that differ from each other. -/
def directives? (hasVersion : Bool) (handles : Handles) :
    List Token → Option (Handles × List Token)
  | .versionDirective major minor :: rest =>
    if hasVersion || major ≠ 1 || (minor ≠ 1 && minor ≠ 2) then none
    else directives? true handles rest
  | .tagDirective handle lead :: rest =>
    if handles.any (·.1 = handle) then none
    else directives? hasVersion ((handle, lead) :: handles) rest
  | ts => some (handles, ts)

/-- Adds the handles that need no directive to those of the directives. -/
def withDefaults (handles : Handles) : Handles := handles ++ defaultHandles

/-- Reads the outermost node of a document. -/
def rootNode? (handles : Handles) (ts : List Token) : Option (Read Node) :=
  node? handles true false (4 * ts.length + 4) .empty ts

/-- Reads the node of a document that has been announced by a mark. -/
def announced? (handles : Handles) (ts : List Token) : Option (Read Node) :=
  match ts with
  | [] | .versionDirective .. :: _ | .tagDirective .. :: _ | .documentStart :: _
  | .documentEnd :: _ => some (missing, .empty, ts)
  | _ => rootNode? handles ts

/-- The scalar that stands for a text without a document: an empty collection, nothing else. -/
def nothing : Node := .scalar { Scalar.unreadable with isHollow := true, present := some false }

/-- Reads the document of the tokens of a text. -/
def ofTokens? (ts : List Token) : Option Document := do
  let (root, anchors, rest) ←
    match ts with
    | [] => some (nothing, Anchors.empty, [])
    | .versionDirective .. :: _ | .tagDirective .. :: _ | .documentStart :: _ => do
      let (handles, rest) ← directives? false [] ts
      match rest with
      | .documentStart :: rest => announced? (withDefaults handles) rest
      | _ => none
    | _ => rootNode? defaultHandles ts
  if rest.all (· = .documentEnd) then some ⟨.yaml, root, anchors.nodes.map (·.2)⟩ else none

/-- Reads the document of a YAML text. -/
def read? (text : String) : Option Document := do
  ofTokens? (← tokens? text.toList).toList

end DeviceFlow.Document.Yaml
