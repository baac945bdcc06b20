import DeviceFlow.Pattern.CharSet
import DeviceFlow.Pattern.Phrase

/-!
# Patterns

A pattern says where stretches of a text can end that start at given places. Places are counted
from the start of the text, so a text of `n` characters has `n + 1` of them, and a set of places
is a list of as many truth values. A text fits a pattern if a stretch of it does.
-/

namespace DeviceFlow

/-- A place in a text that a pattern can ask for. -/
inductive Pattern.Boundary where
  | textStart
  | textEnd
  | lineStart
  | lineEnd
  /-- Lines end with a line feed, a carriage return, or both together. -/
  | anyLineStart
  | anyLineEnd
  /-- The edge of a word of ASCII characters. -/
  | word (edge : Pattern.WordEdge)
  /-- The edge of a word of any characters, which cannot be found out. -/
  | anyWord (edge : Pattern.WordEdge)
  deriving DecidableEq, Repr

/-- What stretches of a text can look like. -/
inductive Pattern where
  /-- A character of a set. -/
  | one (set : Pattern.CharSet)
  /-- Nothing, at a certain place. -/
  | boundary (b : Pattern.Boundary)
  | sequence (parts : List Pattern)
  | choice (branches : List Pattern)
  | repeated (least : Nat) (most : Option Nat) (inner : Pattern)
  /-- A group that is remembered. -/
  | group (inner : Pattern)

namespace Pattern

/-- Whether a place between two characters is an edge of a word of ASCII characters. -/
def WordEdge.isBetween (edge : WordEdge) (before after : Option Char) : Bool :=
  let before := before.any CharSet.wordChars.contains
  let after := after.any CharSet.wordChars.contains
  match edge with
  | .either => before != after
  | .neither => before == after
  | .start => !before && after
  | .finish => before && !after
  | .startHalf => !before
  | .finishHalf => !after

/-- Whether a place between two characters is the one that is asked for. -/
def Boundary.isBetween (b : Boundary) (before after : Option Char) : Bool :=
  match b with
  | .textStart => before.isNone
  | .textEnd => after.isNone
  | .lineStart => before.all (· = '\n')
  | .lineEnd => after.all (· = '\n')
  | .anyLineStart =>
    before.all (· = '\n') || (before == some '\r' && after != some '\n')
  | .anyLineEnd =>
    after.all (· = '\r') || (after == some '\n' && before != some '\r')
  | .word edge => edge.isBetween before after
  | .anyWord _ => false

/-- The characters before and after each place of a text. -/
def neighbours (text : List Char) : List (Option Char × Option Char) :=
  (none :: text.map some).zip (text.map some ++ [none])

/-- The places of a text that are in one of two sets. -/
def eitherPlace (s t : List Bool) : List Bool := List.zipWith (· || ·) s t

/-- Repeats something a number of times. -/
def times {α : Type} (f : α → α) : Nat → α → α
  | 0, a => a
  | n + 1, a => times f n (f a)

/-- The places that are reached in no more than a number of rounds. -/
def spread (f : List Bool → List Bool) : Nat → List Bool → List Bool
  | 0, s => s
  | rounds + 1, s =>
    let t := eitherPlace s (f s)
    if t = s then s else spread f rounds t

mutual

/-- The places where stretches can end that start at some places. After as many rounds as there
    are places, a further round of a repetition reaches nothing new. -/
def ends (text : List Char) : Pattern → List Bool → List Bool
  | .one set, s => false :: List.zipWith (fun here c => here && set.contains c) s text
  | .boundary b, s =>
    List.zipWith (fun here (before, after) => here && b.isBetween before after) s
      (neighbours text)
  | .sequence parts, s => endsOfAll text parts s
  | .choice branches, s => endsOfAny text branches s
  | .repeated least most inner, s =>
    let rounds := text.length + 1
    let s := times (ends text inner) (min least rounds) s
    spread (ends text inner) (match most with
      | some n => min (n - least) rounds
      | none => rounds) s
  | .group inner, s => ends text inner s

/-- The places where stretches can end that consist of several others. -/
def endsOfAll (text : List Char) : List Pattern → List Bool → List Bool
  | [], s => s
  | p :: rest, s => endsOfAll text rest (ends text p s)

/-- The places where stretches can end that fit one of several patterns. -/
def endsOfAny (text : List Char) : List Pattern → List Bool → List Bool
  | [], s => s.map fun _ => false
  | p :: rest, s => eitherPlace (ends text p s) (endsOfAny text rest s)

end

/-- Whether a stretch of a text fits a pattern. -/
def isIn (p : Pattern) (text : String) : Bool :=
  let chars := text.toList
  (ends chars p (List.replicate (chars.length + 1) true)).any id

mutual

/-- Whether a pattern asks for edges of words of any characters. -/
def needsAnyWord : Pattern → Bool
  | .one _ => false
  | .boundary b => match b with | .anyWord _ => true | _ => false
  | .sequence ps | .choice ps => someNeedAnyWord ps
  | .repeated _ _ inner | .group inner => inner.needsAnyWord

/-- Whether some patterns ask for edges of words of any characters. -/
def someNeedAnyWord : List Pattern → Bool
  | [] => false
  | p :: rest => p.needsAnyWord || someNeedAnyWord rest

end

/-- A pattern that is repeated. What is never repeated asks for nothing. -/
def ofRepetition (least : Nat) (most : Option Nat) (p : Pattern) : Pattern :=
  if most = some 0 then .sequence []
  else if least = 1 ∧ most = some 1 then p
  else .repeated least most p

end Pattern

end DeviceFlow
