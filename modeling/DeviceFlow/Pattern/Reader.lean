import DeviceFlow.Pattern.Brackets
import DeviceFlow.Text.Letter

/-!
# The text of a pattern

Reads the phrase that a text stands for: branches with bars between them, each a row of parts,
of which some are groups, and marks that say how often the part before them is repeated.
-/

namespace DeviceFlow.Pattern.Reading

/-- Whether a character can stand in the name of a group. -/
def isGroupNameChar (c : Char) : Bool :=
  Text.isLetterOrNumber c || c = '_' || c = '.' || c = '[' || c = ']'

/-- Whether the name of a group can start with a character. -/
def isGroupNameStart (c : Char) : Bool := Text.isLetter c || c = '_'

/-- Reads the name of a group up to the closing angle. No two groups have one name. -/
def groupName : Reading Unit := do
  let start ← here
  match ← peek with
  | none => failHere .groupNameUnfinished
  | some c =>
    if c ≠ '>' ∧ !isGroupNameStart c then fail .groupNameCharacter (← charSpan)
    let name ← takeWhile Cursor.next isGroupNameChar
    let span : Span := ⟨start, ← here⟩
    match ← peek with
    | none => failHere .groupNameUnfinished
    | some '>' =>
      next
      if name.isEmpty then fail .groupNameMissing (.nothingAt start)
      match (← get).names.lookup name with
      | some earlier => throw ⟨.groupNameTwice, span, some earlier⟩
      | none => modify fun c => { c with names := (name, span) :: c.names }
    | some _ => fail .groupNameCharacter (← charSpan)

/-- Reads flags up to a colon or a closing parenthesis. Those after a hyphen are switched off.
    `dash` is the place of the hyphen, `read` holds the flags with their places. -/
def flagsUpTo (dash : Option Span) (read : List (Flag × Bool × Span)) :
    Nat → Reading (List (Flag × Bool))
  | 0 => failHere .flagsUnfinished
  | limit + 1 => do
    let span ← charSpan
    match ← peek with
    | none => failHere .flagsUnfinished
    | some '-' =>
      match dash with
      | some earlier => throw ⟨.flagsNegatedTwice, span, some earlier⟩
      | none =>
        next
        match ← peek, span with
        | some ':', _ | some ')', _ => fail .flagNegatesNothing span
        | _, _ => flagsUpTo (some span) read limit
    | some c =>
      if c = ':' ∨ c = ')' then return read.reverse.map fun (flag, isOn, _) => (flag, isOn)
      match Flag.ofChar? c with
      | none => fail .flagUnknown span
      | some flag =>
        match read.find? (·.1 = flag) with
        | some (_, _, earlier) => throw ⟨.flagTwice, span, some earlier⟩
        | none =>
          next
          flagsUpTo dash ((flag, dash.isNone, span) :: read) limit

/-- What a parenthesis opens. -/
inductive Opening where
  /-- Nothing: flags are changed for what follows. -/
  | setting (changes : List (Flag × Bool))
  | group (isRemembered : Bool) (changes : List (Flag × Bool))
  deriving DecidableEq, Repr

/-- Goes over some characters if they follow. -/
def accept (word : String) : Reading Bool := do
  let c ← get
  if word.toList.isPrefixOf c.rest then
    set (c.drop word.length)
    return true
  else return false

/-- Reads an opening parenthesis and what belongs to it. -/
def opening : Reading Opening := do
  let span ← charSpan
  step
  if ← accept "?=" <||> accept "?!" <||> accept "?<=" <||> accept "?<!" then
    failSince span.start .lookAround
  let mark ← here
  if ← accept "?P<" <||> accept "?<" then
    groupName
    return .group true []
  else if ← accept "?" then
    if (← peek).isNone then fail .groupUnclosed span
    let changes ← flagsUpTo none [] ((← get).rest.length + 1)
    let isSetting := (← peek) = some ')'
    next
    if isSetting ∧ changes.isEmpty then fail .nothingToRepeat (.nothingAt mark)
    return if isSetting then .setting changes else .group false changes
  else return .group true []

/-- Applies changes of flags to the cursor. -/
def switch (changes : List (Flag × Bool)) : Reading Unit :=
  modify fun c => { c with skipsBlanks := (changes.lookup .skipBlanks).getD c.skipsBlanks }

/-- What has been read of a group, or of the whole pattern. The latest branch and the latest
    part are the first. -/
structure Gathered where
  start : Position
  branches : List Phrase
  partsStart : Position
  parts : List Phrase

namespace Gathered

/-- Nothing has been read yet. -/
def none (p : Position) : Gathered := ⟨p, [], p, []⟩

variable (g : Gathered)

/-- Adds a part. -/
def push (p : Phrase) : Gathered := { g with parts := p :: g.parts }

/-- The branch that ends at a place. -/
def branch (finish : Position) : Phrase := .ofParts ⟨g.partsStart, finish⟩ g.parts.reverse

/-- Ends a branch and starts the next one. -/
def nextBranch (finish start : Position) : Gathered :=
  ⟨g.start, g.branch finish :: g.branches, start, []⟩

/-- The whole, which ends at a place. -/
def phrase (finish : Position) : Phrase :=
  .ofBranches ⟨g.start, finish⟩ (g.branch finish :: g.branches).reverse

/-- Takes out the latest part to repeat it. -/
def takeLast : Reading (Phrase × Gathered) :=
  match g.parts with
  | [] | .empty _ :: _ | .flags .. :: _ => failHere .nothingToRepeat
  | p :: rest => return (p, { g with parts := rest })

end Gathered

/-- Reads how often something is repeated, in braces. -/
def count : Reading (Nat × Option Nat) := do
  let start ← here
  let unclosed {α : Type} : Reading α := failSince start .countUnclosed
  step
  if (← peek).isNone then unclosed
  let least ← number
  match ← peek with
  | none => unclosed
  | some ',' =>
    step
    match ← peek with
    | none => unclosed
    | some '}' => return (← least, none)
    | some _ =>
      let least ← least
      let most ← number
      return (least, some (← most))
  | some _ =>
    let least ← least
    return (least, some least)

/-- Reads how often something is repeated, with the braces and a mark after them. -/
def countInBraces : Reading (Nat × Option Nat) := do
  let start ← here
  let (least, most) ← count
  if (← peek) ≠ some '}' then failSince start .countUnclosed
  step
  if (← peek) = some '?' then next
  if most.any (· < least) then failSince start .countOrder
  return (least, most)

/-- Reads a mark that says how often something is repeated, and a mark after it. -/
def mark (least : Nat) (most : Option Nat) : Reading (Nat × Option Nat) := do
  next
  if (← peek) = some '?' then next
  return (least, most)

/-- Repeats the latest part as often as is read. -/
def repeatLast (g : Gathered) (bounds : Reading (Nat × Option Nat)) : Reading Gathered := do
  let (p, g) ← g.takeLast
  let (least, most) ← bounds
  return g.push (.repetition ⟨p.span.start, ← here⟩ least most p)

/-- Reads a place or a character that stands for itself. -/
def single (c : Char) : Reading Phrase := do
  let l ← plain c
  return match c with
    | '.' => .dot l.span
    | '^' => .place l.span .lineStart
    | '$' => .place l.span .lineEnd
    | _ => .literal l

/-- Reads up to the end of a group, or of the whole text. -/
def branches (isInGroup : Bool) : Nat → Gathered → Reading Phrase
  | 0, g => return g.phrase (← here)
  | limit + 1, g => do
    modify Cursor.skip
    let p ← here
    match ← peek with
    | none => return g.phrase p
    | some ')' => if isInGroup then return g.phrase p else fail .groupUnopened (← charSpan)
    | some '|' =>
      next
      branches isInGroup limit (g.nextBranch p (← here))
    | some '(' =>
      let span ← charSpan
      let skipsBlanks := (← get).skipsBlanks
      match ← opening with
      | .setting changes =>
        switch changes
        branches isInGroup limit (g.push (.flags ⟨p, ← here⟩ changes))
      | .group isRemembered changes =>
        switch changes
        let inner ← branches true limit (.none (← here))
        if (← peek).isNone then fail .groupUnclosed span
        modify fun c => { c.next with skipsBlanks := skipsBlanks }
        branches isInGroup limit (g.push (.group ⟨p, ← here⟩ isRemembered changes inner))
    | some '[' => branches isInGroup limit (g.push (← brackets))
    | some '?' => branches isInGroup limit (← repeatLast g (mark 0 (some 1)))
    | some '*' => branches isInGroup limit (← repeatLast g (mark 0 none))
    | some '+' => branches isInGroup limit (← repeatLast g (mark 1 none))
    | some '{' => branches isInGroup limit (← repeatLast g countInBraces)
    | some '\\' => branches isInGroup limit (g.push (← escape))
    | some c => branches isInGroup limit (g.push (← single c))

end Reading

/-- The phrase that a text stands for. -/
def Phrase.ofText (text : String) : Except Fault Phrase := do
  let c := Cursor.ofText text
  let (p, _) ← (Reading.branches false (c.rest.length + 1) (.none c.position)).run c
  p.checkDepth 0
  return p

end DeviceFlow.Pattern
