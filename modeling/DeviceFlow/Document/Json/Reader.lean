import DeviceFlow.Document.Json.Token

/-!
# Reading JSON

The tokens of a JSON text are put together into a tree by a machine with a stack: the stack
holds the lists and tables that are open, innermost first, each with its items so far in
reverse order. The machine takes one token at a time, so nesting of any depth is read.
-/

namespace DeviceFlow.Document.Json

/-- A list or table that is open. -/
inductive Frame where
  | list (items : List Node)
  | table (entries : List (Node × Node))
  /-- A table with a key whose value is being read. -/
  | entry (entries : List (Node × Node)) (key : Node)

/-- What may come next. -/
inductive Expectation where
  /-- A value. -/
  | value
  /-- A value or the end of the list that was just opened. -/
  | firstValue
  /-- A key. -/
  | key
  /-- A key or the end of the table that was just opened. -/
  | firstKey
  /-- The colon after a key. -/
  | colon
  /-- A comma or the end of the innermost list or table. -/
  | separator
  deriving DecidableEq

/-- The machine between two tokens. The value of the whole text is there when it has been
    read to its end. -/
structure State where
  frames : List Frame
  expectation : Expectation
  result : Option Node

/-- The machine before the first token. -/
def State.start : State := ⟨[], .value, none⟩

/-- Puts a finished value where it belongs. -/
def State.push (frames : List Frame) (node : Node) : Option State :=
  match frames with
  | [] => some ⟨[], .separator, some node⟩
  | .list items :: outer => some ⟨.list (node :: items) :: outer, .separator, none⟩
  | .entry entries key :: outer => some ⟨.table ((key, node) :: entries) :: outer, .separator, none⟩
  | .table _ :: _ => none

/-- Takes one token. -/
def State.step (s : State) (t : Token) : Option State :=
  match s.expectation, t with
  | .value, .listOpen | .firstValue, .listOpen => some ⟨.list [] :: s.frames, .firstValue, none⟩
  | .value, .tableOpen | .firstValue, .tableOpen => some ⟨.table [] :: s.frames, .firstKey, none⟩
  | .value, .scalar v | .firstValue, .scalar v => State.push s.frames (.scalar v)
  | .value, .text v | .firstValue, .text v => State.push s.frames (.scalar (textScalar v))
  | .key, .text v | .firstKey, .text v =>
    match s.frames with
    | .table entries :: outer =>
      some ⟨.entry entries (.scalar (textScalar v)) :: outer, .colon, none⟩
    | _ => none
  | .colon, .colon => some { s with expectation := .value }
  | .separator, .comma =>
    match s.frames with
    | .list _ :: _ => some { s with expectation := .value }
    | .table _ :: _ => some { s with expectation := .key }
    | _ => none
  | .separator, .listClose | .firstValue, .listClose =>
    match s.frames with
    | .list items :: outer => State.push outer (.list false items.reverse)
    | _ => none
  | .separator, .tableClose | .firstKey, .tableClose =>
    match s.frames with
    | .table entries :: outer => State.push outer (.table false entries.reverse)
    | _ => none
  | _, _ => none

/-- Reads the document of a JSON text. -/
def read? (text : String) : Option Document := do
  let tokens ← tokens? text.toList
  let final ← tokens.foldlM State.step State.start
  let root ← final.result
  return ⟨.json, root, #[]⟩

end DeviceFlow.Document.Json
