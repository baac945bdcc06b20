import DeviceFlow.Pattern.Basic

/-!
# The size of a pattern

A pattern is written out as states before it is used: what is repeated a number of times is
there as often. It is written out twice, to read a text from its start and from its end. The
size of a pattern is the number of bytes that the states take, and a pattern that takes too many
is refused.
-/

namespace DeviceFlow.Pattern

/-- In which direction a text is read. -/
inductive Direction where
  | forward
  | backward
  deriving DecidableEq, Repr

/-- The bytes of a state. -/
def stateSize : Nat := 32

/-- The bytes of a way from one state to another by a character. -/
def waySize : Nat := 8

/-- The bytes of a way from one state to another by nothing. -/
def branchSize : Nat := 4

/-- The bytes of a state from which there are two ways. -/
def forkSize : Nat := stateSize + 2 * branchSize

/-- The bytes that every pattern takes: the states before and after it. -/
def frameSize : Direction → Nat
  | .forward => 208
  | .backward => 144

/-- The bytes of a set of characters. Characters outside ASCII are read byte by byte, which takes
    more states, above all from the end. -/
def CharSet.size (d : Direction) (s : CharSet) : Nat :=
  let ranges := s.properRanges
  let several :=
    if s.isAscii then 2 * stateSize + waySize * ranges.length
    else
      match d with
      | .forward => 9 * stateSize + waySize * (15 + ranges.length)
      | .backward => (28 + ranges.length) * stateSize + branchSize * (8 + ranges.length)
  match ranges with
  | [] => stateSize
  | [(low, high)] => if low = high then stateSize * (Char.ofNat low).utf8Size else several
  | _ => several

mutual

/-- Whether all stretches that fit are empty. -/
def isWidthless : Pattern → Bool
  | .one _ => false
  | .boundary _ => true
  | .sequence ps | .choice ps => allWidthless ps
  | .repeated _ _ inner | .group inner => inner.isWidthless

/-- Whether all stretches that fit some patterns are empty. -/
def allWidthless : List Pattern → Bool
  | [] => true
  | p :: rest => p.isWidthless && allWidthless rest

end

/-- The bytes of something that is repeated. -/
def repeatedSize (least : Nat) (most : Option Nat) (size : Nat) : Nat :=
  match most with
  | none => max least 1 * size + forkSize
  | some most =>
    if most = least then least * size
    else
      let start := if least = 0 ∧ most ≠ 1 then stateSize else least * size
      start + (most - least) * (size + forkSize) + stateSize

/-- The set that several patterns stand for if each of them is one character of a set. -/
def setOfAll? : List Pattern → Option CharSet
  | [] => some .empty
  | .one set :: rest => (setOfAll? rest).map set.union
  | _ => none

mutual

/-- The bytes that a pattern takes. A choice between single characters is a set. What is empty is
    repeated once at most. -/
def size (d : Direction) : Pattern → Nat
  | .one set => set.size d
  | .boundary _ => stateSize
  | .sequence ps => max stateSize (totalSize d ps)
  | .choice ps =>
    match setOfAll? ps with
    | some set => set.size d
    | none => 2 * stateSize + branchSize * ps.length + totalSize d ps
  | .repeated least most inner =>
    if inner.isWidthless then repeatedSize (min least 1) (some 1) (inner.size d)
    else repeatedSize least most (inner.size d)
  | .group inner =>
    match d with
    | .forward => 2 * stateSize + inner.size d
    | .backward => inner.size d

/-- The bytes that some patterns take. -/
def totalSize (d : Direction) : List Pattern → Nat
  | [] => 0
  | p :: rest => p.size d + totalSize d rest

end

/-- The most bytes that a pattern may take: ten mebibytes. -/
def maxSize : Nat := 10 * 1024 * 1024

/-- Whether a pattern takes too many bytes. -/
def isTooLarge (p : Pattern) (d : Direction) : Bool := maxSize < frameSize d + p.size d

end DeviceFlow.Pattern
