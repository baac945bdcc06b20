import DeviceFlow.Pattern.Cursor
import DeviceFlow.Pattern.Phrase

/-!
# Escapes

What a backslash makes of the characters after it: a character given by its code or by a
letter, a set of characters, or a place in a text. A character that means something in patterns
stands for itself.
-/

namespace DeviceFlow.Pattern.Reading

/-- The character with a code, if there is one. -/
def charOfCode? (digits : List Char) : Option Char :=
  (Text.radixValue? 16 digits).bind fun n => if n.isValidChar then some (Char.ofNat n) else none

/-- Whether a character is a hexadecimal digit. -/
def isCodeDigit (c : Char) : Bool := (Text.hexValue? c).isSome

/-- Reads a number of hexadecimal digits. -/
def codeDigits : Nat → Reading (List Char)
  | 0 => return []
  | n + 1 => do
    match ← peek with
    | none => failHere .escapeUnfinished
    | some c =>
      if isCodeDigit c then
        step
        return c :: (← codeDigits n)
      else fail .codeDigit (← charSpan)

/-- Reads a code in braces. -/
def codeInBraces : Reading Char := do
  let brace ← here
  let start := (← charSpan).finish
  step
  let digits ← takeWhile Cursor.step isCodeDigit
  match ← peek with
  | none => failSince brace .escapeUnfinished
  | some '}' =>
    let finish ← here
    step
    if digits.isEmpty then failSince brace .codeMissing
    match charOfCode? digits.toList with
    | some c => return c
    | none => fail .codeOfNoCharacter ⟨start, finish⟩
  | some _ => fail .codeDigit (← charSpan)

/-- Reads the code of a character after the letter that says how many digits it has. -/
def code (escape : Position) (letter : Char) : Reading Literal := do
  step
  match ← peek with
  | none => failHere .escapeUnfinished
  | some '{' =>
    let c ← codeInBraces
    return ⟨⟨escape, ← here⟩, c, false⟩
  | some _ =>
    let start ← here
    let digits ← codeDigits (if letter = 'x' then 2 else if letter = 'u' then 4 else 8)
    match charOfCode? digits with
    | some c => return ⟨⟨escape, ← here⟩, c, letter = 'x'⟩
    | none => failSince start .codeOfNoCharacter

/-- Reads the name of a property: a letter, or what stands in braces. -/
def propertyName : Reading String := do
  step
  match ← peek with
  | none => failHere .escapeUnfinished
  | some '{' =>
    step
    let name ← takeWhile Cursor.step (· ≠ '}')
    if (← peek).isNone then failHere .escapeUnfinished
    next
    return name
  | some '\\' => fail .propertyName (← charSpan)
  | some c =>
    step
    return c.toString

/-- The edge of words with a name. -/
def edge? : String → Option WordEdge
  | "start" => some .start
  | "end" => some .finish
  | "start-half" => some .startHalf
  | "end-half" => some .finishHalf
  | _ => none

/-- Whether a character can stand in the name of an edge. -/
def isEdgeChar (c : Char) : Bool := c.isAlpha || c = '-'

/-- Reads the name of an edge in braces; none when the braces hold something else. -/
def edgeInBraces (escape : Position) : Reading (Option WordEdge) := do
  let brace ← get
  step
  let start ← here
  match ← peek with
  | none => failSince escape .boundaryUnfinished
  | some c =>
    if !isEdgeChar c then
      set brace
      return none
    let name ← takeWhile Cursor.step isEdgeChar
    let finish ← here
    if (← peek) ≠ some '}' then failSince brace.position .boundaryUnclosed
    next
    match edge? name with
    | some edge => return some edge
    | none => fail .boundaryUnknown ⟨start, finish⟩

/-- Reads what follows the letter for the edges of words. -/
def edge (escape : Position) : Reading Phrase := do
  let plain : Span := ⟨escape, ← here⟩
  if (← peek) = some '{' then
    match ← edgeInBraces escape with
    | some edge => return .place ⟨escape, ← here⟩ (.word edge)
    | none => return .place plain (.word .either)
  else return .place plain (.word .either)

/-- Whether a character stands for itself after a backslash. Letters and digits are kept for
    other uses, and so are angles. -/
def isPlainEscape (c : Char) : Bool :=
  c.toNat < 0x80 && !c.isAlphanum && c ≠ '<' && c ≠ '>'

/-- The control character that a letter stands for after a backslash. -/
def controlChar? : Char → Option Char
  | 'a' => some '\x07'
  | 'f' => some '\x0c'
  | 't' => some '\t'
  | 'n' => some '\n'
  | 'r' => some '\r'
  | 'v' => some '\x0b'
  | _ => none

/-- The place in a text that a character stands for after a backslash. -/
def placeEscape? : Char → Option PlacePhrase
  | 'A' => some .textStart
  | 'z' => some .textEnd
  | 'B' => some (.word .neither)
  | '<' => some (.word .start)
  | '>' => some (.word .finish)
  | _ => none

/-- The characters that a small letter stands for after a backslash, as far as they are ASCII
    characters. -/
def shorthand? : Char → Option CharSet
  | 'd' => some CharSet.digits
  | 's' => some CharSet.blanks
  | 'w' => some CharSet.wordChars
  | _ => none

/-- Reads an escape. -/
def escape : Reading Phrase := do
  let start ← here
  next
  match ← peek with
  | none => failSince start .escapeUnfinished
  | some c =>
    if c.isDigit then fail .reference ⟨start, (← charSpan).finish⟩
    else if c = 'x' ∨ c = 'u' ∨ c = 'U' then return .literal (← code start c)
    else if c = 'p' ∨ c = 'P' then
      let name ← propertyName
      return .property ⟨start, ← here⟩ (c = 'P') name
    else
      next
      let span : Span := ⟨start, ← here⟩
      if isPlainEscape c then return .literal ⟨span, c, false⟩
      else if c = 'b' then edge start
      else
        match shorthand? c.toLower, controlChar? c, placeEscape? c with
        | some set, _, _ => return .shorthand span c.isUpper set
        | none, some x, _ => return .literal ⟨span, x, false⟩
        | none, none, some p => return .place span p
        | none, none, none => fail .escapeUnknown span

end DeviceFlow.Pattern.Reading
