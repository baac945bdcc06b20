import DeviceFlow.Pattern.CharSet
import DeviceFlow.Pattern.Fault

/-!
# Patterns as they are written

A phrase is a pattern as it stands in a text: every part knows its stretch of the text, so that
what is wrong with its meaning can be shown there.
-/

namespace DeviceFlow.Pattern

/-- A character that stands for itself. -/
structure Literal where
  span : Span
  char : Char
  /-- Whether it is written as a byte of two hexadecimal digits. -/
  isByte : Bool
  deriving DecidableEq, Repr

/-- How the members of two sets are combined. -/
inductive SetOperation where
  | intersection
  | difference
  | symmetricDifference
  deriving DecidableEq, Repr

/-- What stands in brackets. -/
inductive SetPhrase where
  | literal (l : Literal)
  | range (span : Span) (low high : Literal)
  /-- A set with a name. -/
  | named (span : Span) (isNegated : Bool) (set : CharSet)
  /-- Digits, blanks or the characters of words; `set` holds those of ASCII. -/
  | shorthand (span : Span) (isNegated : Bool) (set : CharSet)
  /-- A property of characters. -/
  | property (span : Span) (isNegated : Bool) (name : String)
  | brackets (span : Span) (isNegated : Bool) (inner : SetPhrase)
  | all (span : Span) (items : List SetPhrase)
  | combined (span : Span) (operation : SetOperation) (left right : SetPhrase)

/-- The stretch of a text that something in brackets takes. -/
def SetPhrase.span : SetPhrase → Span
  | .literal l => l.span
  | .range s .. | .named s .. | .shorthand s .. | .property s .. | .brackets s .. | .all s _
  | .combined s .. => s

/-- What can be switched on or off in a pattern. -/
inductive Flag where
  | ignoreCase
  | multiLine
  | dotMatchesLineBreak
  | swapGreed
  | unicode
  | carriageReturns
  | skipBlanks
  deriving DecidableEq, Repr

/-- The flag of a letter. -/
def Flag.ofChar? : Char → Option Flag
  | 'i' => some .ignoreCase
  | 'm' => some .multiLine
  | 's' => some .dotMatchesLineBreak
  | 'U' => some .swapGreed
  | 'u' => some .unicode
  | 'R' => some .carriageReturns
  | 'x' => some .skipBlanks
  | _ => none

/-- The edges of words. Those of half a word look at one side only. -/
inductive WordEdge where
  | either
  | neither
  | start
  | finish
  | startHalf
  | finishHalf
  deriving DecidableEq, Repr

/-- Places in a text that a phrase can ask for. -/
inductive PlacePhrase where
  | lineStart
  | lineEnd
  | textStart
  | textEnd
  | word (edge : WordEdge)
  deriving DecidableEq, Repr

/-- A pattern as it is written. -/
inductive Phrase where
  | empty (span : Span)
  | flags (span : Span) (changes : List (Flag × Bool))
  | literal (l : Literal)
  | dot (span : Span)
  | place (span : Span) (p : PlacePhrase)
  | shorthand (span : Span) (isNegated : Bool) (set : CharSet)
  | property (span : Span) (isNegated : Bool) (name : String)
  | brackets (span : Span) (isNegated : Bool) (inner : SetPhrase)
  | repetition (span : Span) (least : Nat) (most : Option Nat) (inner : Phrase)
  /-- A group; flags that it changes are changed inside only. -/
  | group (span : Span) (isRemembered : Bool) (changes : List (Flag × Bool)) (inner : Phrase)
  | choice (span : Span) (branches : List Phrase)
  | sequence (span : Span) (parts : List Phrase)

/-- The stretch of a text that a phrase takes. -/
def Phrase.span : Phrase → Span
  | .literal l => l.span
  | .empty s | .flags s _ | .dot s | .place s _ | .shorthand s .. | .property s .. | .brackets s ..
  | .repetition s .. | .group s .. | .choice s _ | .sequence s _ => s

/-- Several phrases one after the other. -/
def Phrase.ofParts (span : Span) : List Phrase → Phrase
  | [] => .empty span
  | [p] => p
  | ps => .sequence span ps

/-- The choice between several phrases. -/
def Phrase.ofBranches (span : Span) : List Phrase → Phrase
  | [] => .empty span
  | [p] => p
  | ps => .choice span ps

/-- Several things in brackets together. -/
def SetPhrase.ofItems (span : Span) : List SetPhrase → SetPhrase
  | [p] => p
  | ps => .all span ps

/-- How deep phrases can stand in one another. -/
def maxDepth : Nat := 250

/-- Refuses a level too many. -/
def level (depth : Nat) (span : Span) : Except Fault Unit :=
  if depth < maxDepth then .ok () else .error ⟨.tooDeep maxDepth, span, none⟩

mutual

/-- Refuses what stands too deep in brackets. -/
def SetPhrase.checkDepth (depth : Nat) : SetPhrase → Except Fault Unit
  | .brackets span _ inner => do
    level depth span
    inner.checkDepth (depth + 1)
  | .all _ [] => .ok ()
  | .all span items => do
    level depth span
    SetPhrase.checkDepths (depth + 1) items
  | .combined span _ left right => do
    level depth span
    left.checkDepth (depth + 1)
    right.checkDepth (depth + 1)
  | _ => .ok ()

/-- Refuses what stands too deep in brackets, the first one first. -/
def SetPhrase.checkDepths (depth : Nat) : List SetPhrase → Except Fault Unit
  | [] => .ok ()
  | first :: rest => do
    first.checkDepth depth
    SetPhrase.checkDepths depth rest

end

mutual

/-- Refuses phrases that stand too deep in others. -/
def Phrase.checkDepth (depth : Nat) : Phrase → Except Fault Unit
  | .brackets span _ inner => do
    level depth span
    inner.checkDepth (depth + 1)
  | .repetition span _ _ inner | .group span _ _ inner => do
    level depth span
    inner.checkDepth (depth + 1)
  | .choice span inner | .sequence span inner => do
    level depth span
    Phrase.checkDepths (depth + 1) inner
  | _ => .ok ()

/-- Refuses phrases that stand too deep in others, the first one first. -/
def Phrase.checkDepths (depth : Nat) : List Phrase → Except Fault Unit
  | [] => .ok ()
  | first :: rest => do
    first.checkDepth depth
    Phrase.checkDepths depth rest

end

end DeviceFlow.Pattern
