/-!
# Documents as they are written

The tree of values that a document is written from: texts, whole numbers, truth values, lists,
and tables whose entries keep their order.
-/

namespace DeviceFlow.Document

/-- A tree to be written. -/
inductive Value where
  | null
  | bool (b : Bool)
  | int (i : Int)
  | text (s : String)
  | list (items : List Value)
  | table (entries : List (String × Value))

instance : Inhabited Value := ⟨.null⟩

/-- An optional text. -/
def Value.ofText? : Option String → Value
  | some s => .text s
  | none => .null

end DeviceFlow.Document
