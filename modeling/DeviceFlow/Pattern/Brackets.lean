import DeviceFlow.Pattern.Escape

/-!
# Brackets

Sets of characters in brackets: characters, ranges, escapes, sets with a name and further
brackets, one after the other or combined by signs of two characters.
-/

namespace DeviceFlow.Pattern.Reading

/-- What has been read between brackets. The latest item is the first. -/
structure Items where
  span : Span
  items : List SetPhrase

/-- Nothing has been read yet. -/
def Items.none (p : Position) : Items := ⟨.nothingAt p, []⟩

/-- Adds an item. -/
def Items.push (s : Items) (item : SetPhrase) : Items :=
  ⟨⟨if s.items.isEmpty then item.span.start else s.span.start, item.span.finish⟩,
    item :: s.items⟩

/-- The items together. -/
def Items.phrase (s : Items) : SetPhrase := .ofItems s.span s.items.reverse

/-- Reads the next character as it stands. -/
def plain (c : Char) : Reading Literal := do
  let span ← charSpan
  next
  return ⟨span, c, false⟩

/-- Reads a character, or an escape, between brackets. -/
def itemStart (c : Char) : Reading Phrase := do
  if c = '\\' then escape else return .literal (← plain c)

/-- What a phrase stands for as an item. -/
def asItem : Phrase → Reading SetPhrase
  | .literal l => return .literal l
  | .shorthand span isNegated set => return .shorthand span isNegated set
  | .property span isNegated name => return .property span isNegated name
  | p => fail .escapeInBrackets p.span

/-- What a phrase stands for as an end of a range. -/
def asLiteral : Phrase → Reading Literal
  | .literal l => return l
  | p => fail .rangeBoundary p.span

/-- Reads an item that starts with a character. -/
def item (opening : Span) (c : Char) : Reading SetPhrase := do
  let first ← itemStart c
  modify Cursor.skip
  let unclosed {α : Type} : Reading α := fail .bracketsUnclosed opening
  match ← peek with
  | none => unclosed
  | some '-' =>
    let second := (← get).second?
    if second = some ']' ∨ second = some '-' then asItem first
    else
      step
      match ← peek with
      | none => unclosed
      | some c =>
        let last ← itemStart c
        let span : Span := ⟨first.span.start, last.span.finish⟩
        let low ← asLiteral first
        let high ← asLiteral last
        if high.char < low.char then fail .rangeOrder span
        return .range span low high
  | some _ => asItem first

/-- Reads a set with a name between colons, if there is one. -/
def named? : Reading (Option SetPhrase) := do
  let c ← get
  match c.rest with
  | '[' :: ':' :: rest =>
    let isNegated := rest.head? = some '^'
    let rest := if isNegated then rest.drop 1 else rest
    let name := rest.takeWhile (· ≠ ':')
    let size := 2 + (if isNegated then 1 else 0) + name.length + 2
    match (rest.drop name.length).take 2, CharSet.ofName? (String.ofList name) with
    | [':', ']'], some chars =>
      set (c.drop size)
      return some (.named ⟨c.position, ← here⟩ isNegated chars)
    | _, _ => return none
  | _ => return none

/-- Reads hyphens, which stand for themselves at the start. -/
def hyphens (start : Position) : Nat → Items → Reading Items
  | 0, items => return items
  | limit + 1, items => do
    match ← peek with
    | some '-' =>
      let span ← charSpan
      step
      if (← peek).isNone then fail .bracketsUnclosed (.nothingAt start)
      hyphens start limit (items.push (.literal ⟨span, '-', false⟩))
    | _ => return items

/-- Reads what brackets start with: a sign for the characters that are not in them, hyphens, or
    else a closing bracket that stands for itself. -/
def openBrackets : Reading (Span × Bool × Items) := do
  let start ← here
  let advance : Reading Unit := do
    step
    if (← peek).isNone then failSince start .bracketsUnclosed
  advance
  let isNegated := (← peek) = some '^'
  if isNegated then advance
  let items ← hyphens start (← get).rest.length (Items.none (← here))
  if items.items.isEmpty ∧ (← peek) = some ']' then
    let span ← charSpan
    advance
    return (⟨start, ← here⟩, isNegated, items.push (.literal ⟨span, ']', false⟩))
  else return (⟨start, ← here⟩, isNegated, items)

/-- What is combined with what follows. -/
abbrev Pending := Option (SetOperation × SetPhrase)

/-- Combines what is pending with what follows. -/
def combine : Pending → SetPhrase → SetPhrase
  | none, right => right
  | some (operation, left), right =>
    .combined ⟨left.span.start, right.span.finish⟩ operation left right

/-- The operation that two characters stand for. -/
def operation? : List Char → Option SetOperation
  | '&' :: '&' :: _ => some .intersection
  | '-' :: '-' :: _ => some .difference
  | '~' :: '~' :: _ => some .symmetricDifference
  | _ => none

/-- Reads up to the closing bracket. -/
def bracketsBody : Nat → Span → Pending → Items → Reading SetPhrase
  | 0, opening, _, _ => fail .bracketsUnclosed opening
  | limit + 1, opening, pending, items => do
    modify Cursor.skip
    let rest := (← get).rest
    match rest with
    | [] => fail .bracketsUnclosed opening
    | '[' :: _ =>
      match ← named? with
      | some set => bracketsBody limit opening pending (items.push set)
      | none =>
        let (inner, isNegated, first) ← openBrackets
        let body ← bracketsBody limit inner none first
        let nested : SetPhrase := .brackets ⟨inner.start, ← here⟩ isNegated body
        bracketsBody limit opening pending (items.push nested)
    | ']' :: _ =>
      next
      return combine pending items.phrase
    | c :: _ =>
      match operation? rest with
      | some operation =>
        modify (Cursor.drop 2)
        let left := combine pending items.phrase
        bracketsBody limit opening (some (operation, left)) (Items.none (← here))
      | none => bracketsBody limit opening pending (items.push (← item opening c))

/-- Reads brackets. -/
def brackets : Reading Phrase := do
  let (opening, isNegated, first) ← openBrackets
  let body ← bracketsBody ((← get).rest.length + 1) opening none first
  return .brackets ⟨opening.start, ← here⟩ isNegated body

end DeviceFlow.Pattern.Reading
