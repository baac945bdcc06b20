import DeviceFlow.Document.Value

/-!
# Writing JSON

A tree of values as JSON text: over several lines with two blanks for each level, or on one
line. Inside strings the quote, the backslash and the control characters are escaped and
everything else stands for itself.
-/

namespace DeviceFlow.Document.Json

/-- The hexadecimal digit of a number below sixteen. -/
def hexDigit (n : Nat) : Char :=
  (Nat.digitChar n)

/-- A character as it stands in a string. -/
def escaped (c : Char) : List Char :=
  match c with
  | '"' => ['\\', '"']
  | '\\' => ['\\', '\\']
  | '\x08' => ['\\', 'b']
  | '\x0c' => ['\\', 'f']
  | '\n' => ['\\', 'n']
  | '\r' => ['\\', 'r']
  | '\t' => ['\\', 't']
  | c =>
    if c.toNat < 0x20 then
      ['\\', 'u', '0', '0', hexDigit (c.toNat / 16), hexDigit (c.toNat % 16)]
    else [c]

/-- A string with its quotes. -/
def quoted (s : String) : String :=
  String.ofList ('"' :: s.toList.flatMap escaped ++ ['"'])

/-- The line break and the blanks before an item at some level. -/
def lineBreak (level : Nat) : String :=
  String.ofList ('\n' :: List.replicate (2 * level) ' ')

/-- Encloses the written items of a list or table, one to a line. -/
def enclose (left right : String) (level : Nat) (items : List String) : String :=
  if items.isEmpty then left ++ right
  else
    left ++ lineBreak (level + 1) ++ String.intercalate ("," ++ lineBreak (level + 1)) items ++
      lineBreak level ++ right

mutual

/-- A value over several lines, for a value that stands at some level. -/
def pretty (level : Nat) : Value → String
  | .null => "null"
  | .bool b => if b then "true" else "false"
  | .int i => toString i
  | .text s => quoted s
  | .list items => enclose "[" "]" level (prettyItems (level + 1) items)
  | .table entries => enclose "\x7b" "\x7d" level (prettyEntries (level + 1) entries)

/-- The items of a list. -/
def prettyItems (level : Nat) : List Value → List String
  | [] => []
  | v :: rest => pretty level v :: prettyItems level rest

/-- The entries of a table. -/
def prettyEntries (level : Nat) : List (String × Value) → List String
  | [] => []
  | (key, v) :: rest => (quoted key ++ ": " ++ pretty level v) :: prettyEntries level rest

end

mutual

/-- A value on one line. -/
def compact : Value → String
  | .null => "null"
  | .bool b => if b then "true" else "false"
  | .int i => toString i
  | .text s => quoted s
  | .list items => "[" ++ String.intercalate "," (compactItems items) ++ "]"
  | .table entries => "\x7b" ++ String.intercalate "," (compactEntries entries) ++ "\x7d"

/-- The items of a list. -/
def compactItems : List Value → List String
  | [] => []
  | v :: rest => compact v :: compactItems rest

/-- The entries of a table. -/
def compactEntries : List (String × Value) → List String
  | [] => []
  | (key, v) :: rest => (quoted key ++ ":" ++ compact v) :: compactEntries rest

end

/-- The JSON text of a value. -/
def write (v : Value) : String :=
  pretty 0 v

end DeviceFlow.Document.Json
