import DeviceFlow.Document.Yaml.Glyph
import DeviceFlow.Text.Digits

/-!
# Tags of YAML texts

A tag says of what kind a node is. It is written as a handle and a suffix, and read as the
bytes that the two stand for, as percent escapes may make up bytes that are no text. A byte of
zero ends a handle or a suffix early.
-/

namespace DeviceFlow.Document.Yaml

/-- A tag, or a part of one. -/
structure Tag where
  bytes : List UInt8
  deriving DecidableEq, Repr

namespace Tag

/-- The tag that is written as it is. -/
def ofString (s : String) : Tag := ⟨s.toUTF8.toList⟩

/-- A tag of a kind that is known to all documents. -/
def core (name : String) : Tag := ofString ("tag:yaml.org,2002:" ++ name)

/-- The tag that a mark alone makes. -/
def mark : Tag := ofString "!"

/-- Two parts of a tag together. -/
def append (a b : Tag) : Tag := ⟨a.bytes ++ b.bytes⟩

/-- Whether a tag is of the document's own making. -/
def isOwn (t : Tag) : Bool := t.bytes.head? = some '!'.toUInt8

/-- The name in a tag of the document's own, if it is a text. -/
def ownName? (t : Tag) : Option String :=
  if t.isOwn then String.fromUTF8? ⟨t.bytes.tail.toArray⟩ else none

end Tag

/-- The characters of the rest of a tag; some only between angle brackets or in a directive. -/
def isTagChar (everywhere : Bool) (c : Char) : Bool :=
  isNameChar c ||
    [';', '/', '?', ':', '@', '&', '=', '+', '$', '.', '%', '!', '~', '*', '\'', '(',
      ')'].contains c ||
    (everywhere && [',', '[', ']'].contains c)

/-- How many bytes follow a byte that begins a character. -/
def followers? (first : UInt8) : Option Nat :=
  if first < 0x80 then some 0
  else if 0xC0 ≤ first ∧ first < 0xE0 then some 1
  else if 0xE0 ≤ first ∧ first < 0xF0 then some 2
  else if 0xF0 ≤ first ∧ first < 0xF8 then some 3
  else none

/-- Puts percent escapes back into the bytes that they stand for. The bytes of a character come
    one right after the other; the first number is how many of them are still missing. -/
def unescapeTag : Nat → List Char → Option (List UInt8)
  | 0, [] => some []
  | missing, '%' :: a :: b :: rest => do
    let byte := UInt8.ofNat ((← Text.hexValue? a) * 16 + (← Text.hexValue? b))
    let missing ←
      match missing with
      | 0 => followers? byte
      | missing + 1 => if 0x80 ≤ byte ∧ byte < 0xC0 then some missing else none
    return byte :: (← unescapeTag missing rest)
  | 0, c :: rest => if c = '%' then none else (unescapeTag 0 rest).map (c.toUInt8 :: ·)
  | _ + 1, _ => none

/-- Reads the rest of a tag, which must not be empty unless a part of it has been read. -/
def tagRest? (everywhere : Bool) (before : Option (List Char)) (gs : List Glyph) :
    Option (Tag × List Glyph) := do
  let (cs, rest) := spanChars (isTagChar everywhere) gs
  if cs.isEmpty && before.isNone then none
  else
    let bytes ← unescapeTag 0 (before.getD [] ++ cs)
    return (⟨bytes.takeWhile (· ≠ 0)⟩, rest)

/-- Reads the handle of a tag: an exclamation mark, perhaps with a name and another one. -/
def tagHandle? (gs : List Glyph) : Option (List Char × List Glyph) :=
  match gs with
  | g :: rest =>
    if g.char = '!' then
      let (name, after) := spanChars isNameChar rest
      match after with
      | h :: after' =>
        if h.char = '!' then some ('!' :: name ++ ['!'], after') else some ('!' :: name, after)
      | [] => some ('!' :: name, after)
    else none
  | [] => none

/-- Reads a tag between angle brackets, after the opening one. -/
def bracketedTag? (gs : List Glyph) : Option (Tag × List Glyph) := do
  let (tag, rest) ← tagRest? true none gs
  match rest with
  | g :: rest => if g.char = '>' then some (tag, rest) else none
  | [] => none

/-- Reads the handle and the suffix of a tag. A name after a single mark belongs to the suffix,
    and a mark on its own is a tag without a handle. -/
def tagParts? (gs : List Glyph) : Option (String × Tag × List Glyph) := do
  if comesNext ['!', '<'] gs then return ("", ← bracketedTag? (gs.drop 2))
  else
    let (handle, rest) ← tagHandle? gs
    if 1 < handle.length ∧ handle.getLast? = some '!' then
      return (String.ofList handle, ← tagRest? false none rest)
    else
      let (suffix, rest) ← tagRest? false (some (handle.drop 1)) rest
      return if suffix.bytes.isEmpty then ("", Tag.mark, rest) else ("!", suffix, rest)

/-- Reads a tag and makes sure that it ends there. -/
def tag? (inFlow : Bool) (gs : List Glyph) : Option (String × Tag × List Glyph) := do
  let (handle, suffix, rest) ← tagParts? gs
  match rest with
  | [] => some (handle, suffix, rest)
  | g :: _ =>
    if (inFlow && g.char = ',') || g.isSpace then some (handle, suffix, rest) else none

end DeviceFlow.Document.Yaml
