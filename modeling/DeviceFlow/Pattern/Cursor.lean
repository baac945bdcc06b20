import DeviceFlow.Decimal.Power
import DeviceFlow.Pattern.Fault
import DeviceFlow.Text.Blank
import DeviceFlow.Text.Digits

/-!
# Reading the text of a pattern

A cursor stands before the next character of a pattern. A pattern can ask for blanks and
comments to say nothing; then a step of the cursor goes over them as well.
-/

namespace DeviceFlow.Pattern

/-- How far a pattern has been read. -/
structure Cursor where
  rest : List Char
  position : Position
  /-- Whether blanks and comments say nothing. -/
  skipsBlanks : Bool
  /-- The names of groups, and where they stand. -/
  names : List (String × Span)
  deriving DecidableEq, Repr

/-- Goes over blanks, and over comments up to the end of their lines. -/
def dropIdle (inComment : Bool) : List Char → Position → List Char × Position
  | [], p => ([], p)
  | c :: rest, p =>
    if inComment then dropIdle (c ≠ '\n') rest (p.after c)
    else if Text.isBlank c then dropIdle false rest (p.after c)
    else if c = '#' then dropIdle true rest (p.after c)
    else (c :: rest, p)

namespace Cursor

/-- Stands before a text. -/
def ofText (text : String) : Cursor := ⟨text.toList, Position.start, false, []⟩

variable (c : Cursor)

/-- Goes over a character. -/
def next : Cursor :=
  match c.rest with
  | [] => c
  | x :: rest => { c with rest := rest, position := c.position.after x }

/-- Goes over what says nothing. -/
def skip : Cursor :=
  if c.skipsBlanks then
    let (rest, position) := dropIdle false c.rest c.position
    { c with rest := rest, position := position }
  else c

/-- Goes over a character and what says nothing after it. -/
def step : Cursor := c.next.skip

/-- The stretch of the next character. -/
def charSpan : Span := ⟨c.position, c.next.position⟩

/-- Goes over a number of characters. -/
def drop : Nat → Cursor → Cursor
  | 0, c => c
  | n + 1, c => drop n c.next

/-- The character after the next one, where blanks may say nothing. -/
def second? : Option Char :=
  let rest := c.rest.drop 1
  if c.skipsBlanks then
    match rest.dropWhile Text.isBlank with
    | '#' :: comment => (comment.dropWhile Text.isBlank).head? <|> rest.head?
    | other => other.head? <|> rest.head?
  else rest.head?

/-- The characters up to one that is not wanted, and the cursor before it; no more than a
    number of them. -/
def collect (advance : Cursor → Cursor) (wanted : Char → Bool) :
    Nat → Cursor → List Char × Cursor
  | 0, c => ([], c)
  | limit + 1, c =>
    match c.rest with
    | x :: _ =>
      if wanted x then
        let (xs, c) := collect advance wanted limit (advance c)
        (x :: xs, c)
      else ([], c)
    | [] => ([], c)

end Cursor

/-- Something that reads a pattern, and may find a fault in it. -/
abbrev Reading := StateT Cursor (Except Fault)

namespace Reading

/-- The next character. -/
def peek : Reading (Option Char) := return (← get).rest.head?

/-- The place of the cursor. -/
def here : Reading Position := return (← get).position

/-- The stretch of the next character. -/
def charSpan : Reading Span := return (← get).charSpan

/-- Goes over a character. -/
def next : Reading Unit := modify Cursor.next

/-- Goes over a character and what says nothing after it. -/
def step : Reading Unit := modify Cursor.step

/-- Finds a fault. -/
def fail {α : Type} (cause : Cause) (span : Span) : Reading α := throw ⟨cause, span, none⟩

/-- Finds a fault at the cursor. -/
def failHere {α : Type} (cause : Cause) : Reading α := do fail cause (.nothingAt (← here))

/-- Finds a fault between a place and the cursor. -/
def failSince {α : Type} (start : Position) (cause : Cause) : Reading α := do
  fail cause ⟨start, ← here⟩

/-- Reads the characters up to one that is not wanted. -/
def takeWhile (advance : Cursor → Cursor) (wanted : Char → Bool) : Reading String := do
  let c ← get
  let (chars, c) := c.collect advance wanted c.rest.length
  set c
  return String.ofList chars

/-- Reads a number with the blanks around it. What is wrong with it may be of no account. -/
def number : Reading (Except Fault Nat) := do
  let _ ← takeWhile Cursor.next Text.isBlank
  let start ← here
  let digits ← takeWhile Cursor.step Char.isDigit
  let span : Span := ⟨start, ← here⟩
  let _ ← takeWhile Cursor.step Text.isBlank
  let value := Text.digitsValue digits.toList
  return if digits.isEmpty then .error ⟨.countMissing, span, none⟩
    else if value < Decimal.twoTo 32 then .ok value
    else .error ⟨.numberTooLarge, span, none⟩

end Reading

end DeviceFlow.Pattern
