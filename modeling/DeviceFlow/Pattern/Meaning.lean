import DeviceFlow.Pattern.Reader
import DeviceFlow.Pattern.Size

/-!
# The meaning of a pattern

What a phrase means depends on the flags at its place. Only ASCII characters have known
properties: which of them are letters or blanks, and which letters belong together. A phrase
that asks for more is refused, and so is one that would match bytes that are no characters.
-/

namespace DeviceFlow.Pattern

/-- How phrases are understood. -/
structure Manner where
  ignoresCase : Bool
  isMultiLine : Bool
  dotMatchesLineBreak : Bool
  /-- Whether characters are those of all scripts, and not bytes. -/
  isWide : Bool
  hasCarriageReturns : Bool
  deriving DecidableEq, Repr

namespace Manner

/-- How phrases are understood at the start. -/
def opening : Manner := ⟨false, false, false, true, false⟩

/-- Switches a flag. -/
def switch (m : Manner) : Flag × Bool → Manner
  | (.ignoreCase, isOn) => { m with ignoresCase := isOn }
  | (.multiLine, isOn) => { m with isMultiLine := isOn }
  | (.dotMatchesLineBreak, isOn) => { m with dotMatchesLineBreak := isOn }
  | (.unicode, isOn) => { m with isWide := isOn }
  | (.carriageReturns, isOn) => { m with hasCarriageReturns := isOn }
  | (.swapGreed, _) | (.skipBlanks, _) => m

/-- Switches flags. -/
def switchAll (m : Manner) (changes : List (Flag × Bool)) : Manner := changes.foldl switch m

variable (m : Manner)

/-- Finds a fault. -/
def fail {α : Type} (cause : Cause) (span : Span) : Except Fault α := .error ⟨cause, span, none⟩

/-- The greatest code that a set can hold. -/
def lastCode : Nat := if m.isWide then CharSet.lastCode else CharSet.lastByte

/-- A set at its place, with the letters that belong together, or the characters that are not in
    it. -/
def finish (span : Span) (isNegated : Bool) (s : CharSet) : Except Fault CharSet :=
  if m.isWide ∧ m.ignoresCase ∧ !s.isEmpty then fail .caseUnknown span
  else
    let s := if m.ignoresCase then s.withBothCases else s
    let s := if isNegated then s.complement m.lastCode else s
    if m.isWide ∨ s.isAscii then .ok s else fail .partOfCharacter span

/-- A set of digits, blanks or characters of words. -/
def shorthand (span : Span) (isNegated : Bool) (s : CharSet) : Except Fault CharSet :=
  if m.isWide then fail .shorthandUnknown span
  else { m with ignoresCase := false }.finish span isNegated s

/-- The name of a property without what does not count in it. -/
def plainName (name : String) : String :=
  let chars := name.toList.map Char.toLower
  let (start, chars) :=
    match chars with
    | 'i' :: 's' :: rest => (true, rest)
    | _ => (false, chars)
  let chars := chars.filter fun c => c.toNat < 0x80 && c ≠ ' ' && c ≠ '_' && c ≠ '-'
  if start ∧ chars = ['c'] then "isc" else String.ofList chars

/-- What is wrong with a property. None is known, but some names stand for values only. -/
def propertyFault {α : Type} (span : Span) (name : String) : Except Fault α :=
  if !m.isWide then fail .wideCharacter span
  else if ["cf", "sc", "lc"].contains (plainName name) then fail .propertyValueUnknown span
  else fail .propertyUnknown span

/-- Refuses a byte that is no character. -/
def checkByte (l : Literal) : Except Fault Unit :=
  if !m.isWide ∧ l.isByte ∧ 0x80 ≤ l.char.toNat then fail .partOfCharacter l.span else .ok ()

/-- A character in brackets. -/
def member (l : Literal) : Except Fault Nat := do
  m.checkByte l
  if !m.isWide ∧ 0x80 ≤ l.char.toNat then fail .wideCharacter l.span
  else return l.char.toNat

/-- A character. -/
def literal (l : Literal) : Except Fault CharSet := do
  m.checkByte l
  let code := l.char.toNat
  let set := CharSet.range code code
  if !m.ignoresCase then return set
  else if m.isWide then fail .caseUnknown l.span
  else if 0x80 ≤ code then fail .wideCharacter l.span
  else return set.withBothCases

/-- Any character, or any but those that end a line. -/
def dot (span : Span) : Except Fault CharSet :=
  let all := CharSet.range 0 CharSet.lastCode
  let lineFeed := CharSet.range 0x0A 0x0A
  let carriageReturn := CharSet.range 0x0D 0x0D
  if !m.isWide then fail .partOfCharacter span
  else if m.dotMatchesLineBreak then .ok all
  else if m.hasCarriageReturns then .ok ((all.minus lineFeed).minus carriageReturn)
  else .ok (all.minus lineFeed)

/-- A place. -/
def boundary : PlacePhrase → Boundary
  | .lineStart =>
    if !m.isMultiLine then .textStart
    else if m.hasCarriageReturns then .anyLineStart else .lineStart
  | .lineEnd =>
    if !m.isMultiLine then .textEnd
    else if m.hasCarriageReturns then .anyLineEnd else .lineEnd
  | .textStart => .textStart
  | .textEnd => .textEnd
  | .word edge => if m.isWide then .anyWord edge else .word edge

/-- The sets on both sides of an operation. Letters that belong together are put in before. -/
def combined (operation : SetOperation) (leftSpan rightSpan : Span) (left right : CharSet) :
    Except Fault CharSet := do
  let right ← m.finish rightSpan false right
  let left ← m.finish leftSpan false left
  return match operation with
    | .intersection => left.inter right
    | .difference => left.minus right
    | .symmetricDifference => left.symmDiff right

end Manner

mutual

/-- The set that stands in brackets. -/
def SetPhrase.meaning (m : Manner) : SetPhrase → Except Fault CharSet
  | .literal l => do
    let n ← m.member l
    return .range n n
  | .range _ low high => do
    let low ← m.member low
    let high ← m.member high
    return .range low high
  | .named span isNegated set => m.finish span isNegated set
  | .shorthand span isNegated set => m.shorthand span isNegated set
  | .property span _ name => m.propertyFault span name
  | .brackets span isNegated inner => do m.finish span isNegated (← inner.meaning m)
  | .all _ items => SetPhrase.meanings m items
  | .combined _ operation left right => do
    let leftSet ← left.meaning m
    let rightSet ← right.meaning m
    m.combined operation left.span right.span leftSet rightSet

/-- The set of everything that stands in brackets. -/
def SetPhrase.meanings (m : Manner) : List SetPhrase → Except Fault CharSet
  | [] => .ok CharSet.empty
  | first :: rest => do
    let set ← first.meaning m
    return set.union (← SetPhrase.meanings m rest)

end

mutual

/-- The pattern that a phrase stands for, and how what follows is understood. -/
def Phrase.meaning (m : Manner) : Phrase → Except Fault (Pattern × Manner)
  | .empty _ => .ok (.sequence [], m)
  | .flags _ changes => .ok (.sequence [], m.switchAll changes)
  | .literal l => do return (.one (← m.literal l), m)
  | .dot span => do return (.one (← m.dot span), m)
  | .place _ p => .ok (.boundary (m.boundary p), m)
  | .shorthand span isNegated set => do return (.one (← m.shorthand span isNegated set), m)
  | .property span _ name => m.propertyFault span name
  | .brackets span isNegated inner => do
    return (.one (← m.finish span isNegated (← inner.meaning m)), m)
  | .repetition _ least most inner => do
    let (p, m) ← inner.meaning m
    return (.ofRepetition least most p, m)
  | .group _ isRemembered changes inner => do
    let (p, _) ← inner.meaning (m.switchAll changes)
    return (if isRemembered then .group p else p, m)
  | .choice _ branches => do
    let (ps, m) ← Phrase.meanings m branches
    return (.choice ps, m)
  | .sequence _ parts => do
    let (ps, m) ← Phrase.meanings m parts
    return (.sequence ps, m)

/-- The patterns that phrases stand for, one after the other. -/
def Phrase.meanings (m : Manner) : List Phrase → Except Fault (List Pattern × Manner)
  | [] => .ok ([], m)
  | first :: rest => do
    let (p, m) ← first.meaning m
    let (ps, m) ← Phrase.meanings m rest
    return (p :: ps, m)

end

/-- Why a text is no pattern that can be used. -/
inductive Refusal where
  | faulty (fault : Fault)
  | tooLarge
  /-- It asks for edges of words of any characters. -/
  | edgesUnknown
  deriving DecidableEq, Repr

/-- The text of a refusal. -/
def Refusal.message (text : String) : Refusal → String
  | .faulty fault => fault.report text
  | .tooLarge => s!"Compiled regex exceeds size limit of {maxSize} bytes."
  | .edgesUnknown => "error building NFA"

/-- The pattern that a text stands for. -/
def ofText (text : String) : Except Refusal Pattern :=
  match (Phrase.ofText text).bind (Phrase.meaning Manner.opening) with
  | .error fault => .error (.faulty fault)
  | .ok (p, _) =>
    if p.isTooLarge .forward then .error .tooLarge
    else if p.needsAnyWord then .error .edgesUnknown
    else if p.isTooLarge .backward then .error .tooLarge
    else .ok p

end DeviceFlow.Pattern
