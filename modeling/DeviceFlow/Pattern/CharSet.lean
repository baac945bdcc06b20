/-!
# Sets of characters

A set of characters is given by ranges of their codes, in any order. The operations on sets work
on the ranges, and never on single characters.
-/

namespace DeviceFlow.Pattern

/-- A set of characters: ranges of codes with their first and last one. -/
structure CharSet where
  ranges : List (Nat × Nat)
  deriving DecidableEq, Repr

namespace CharSet

/-- The set without characters. -/
def empty : CharSet := ⟨[]⟩

/-- The characters from one code to another. -/
def range (low high : Nat) : CharSet := ⟨if low ≤ high then [(low, high)] else []⟩

/-- The greatest code of a character. -/
def lastCode : Nat := 0x10FFFF

/-- The greatest code of a byte. -/
def lastByte : Nat := 0xFF

/-- Whether a code is in the set. -/
def holds (s : CharSet) (n : Nat) : Bool := s.ranges.any fun (low, high) => low ≤ n ∧ n ≤ high

/-- Whether a character is in the set. -/
def contains (s : CharSet) (c : Char) : Bool := s.holds c.toNat

/-- Whether there is nothing in the set. -/
def isEmpty (s : CharSet) : Bool := s.ranges.isEmpty

/-- Whether all characters of the set are ASCII characters. -/
def isAscii (s : CharSet) : Bool := s.ranges.all (·.2 < 0x80)

/-- The characters of both sets. -/
def union (s t : CharSet) : CharSet := ⟨s.ranges ++ t.ranges⟩

/-- What is left of a range without the codes from `low` to `high`. -/
def cut (low high : Nat) : Nat × Nat → List (Nat × Nat)
  | (a, b) =>
    (if a < low then [(a, min b (low - 1))] else []) ++
      if high < b then [(max a (high + 1), b)] else []

/-- The characters that are not in another set. -/
def minus (s t : CharSet) : CharSet :=
  ⟨t.ranges.foldl (fun rest (low, high) => rest.flatMap (cut low high)) s.ranges⟩

/-- The characters up to a code that are not in the set. -/
def complement (last : Nat) (s : CharSet) : CharSet := (range 0 last).minus s

/-- The characters that are in both sets. -/
def inter (s t : CharSet) : CharSet := s.minus (s.minus t)

/-- The characters that are in one of the sets only. -/
def symmDiff (s t : CharSet) : CharSet := (s.minus t).union (t.minus s)

/-- The characters of the set that are in a range, with their codes moved. -/
def shifted (s : CharSet) (low high : Nat) (move : Nat → Nat) : CharSet :=
  ⟨(s.inter (range low high)).ranges.map fun (a, b) => (move a, move b)⟩

/-- The set with all ASCII letters in both of their forms. -/
def withBothCases (s : CharSet) : CharSet :=
  (s.union (s.shifted 0x61 0x7A (· - 0x20))).union (s.shifted 0x41 0x5A (· + 0x20))

/-- Joins ranges in ascending order that overlap, or have nothing between them. -/
def joined : List (Nat × Nat) → List (Nat × Nat)
  | [] => []
  | (a, b) :: rest =>
    match joined rest with
    | (c, d) :: others => if c ≤ b + 1 then (a, max b d) :: others else (a, b) :: (c, d) :: others
    | [] => [(a, b)]

/-- The ranges that the set consists of, in ascending order and as few as possible. -/
def properRanges (s : CharSet) : List (Nat × Nat) :=
  joined (s.ranges.mergeSort fun x y => x.1 ≤ y.1)

/-- The set of some ranges of characters. -/
def ofChars (ranges : List (Char × Char)) : CharSet :=
  ⟨ranges.map fun (a, b) => (a.toNat, b.toNat)⟩

/-- The decimal digits. -/
def digits : CharSet := ofChars [('0', '9')]

/-- The ASCII letters. -/
def letters : CharSet := ofChars [('A', 'Z'), ('a', 'z')]

/-- The characters of words: letters, digits and the low line. -/
def wordChars : CharSet := ofChars [('0', '9'), ('A', 'Z'), ('_', '_'), ('a', 'z')]

/-- The ASCII blanks. -/
def blanks : CharSet := ofChars [('\t', '\r'), (' ', ' ')]

/-- The set with a name. -/
def ofName? (name : String) : Option CharSet :=
  match name with
  | "alnum" => some (ofChars [('0', '9'), ('A', 'Z'), ('a', 'z')])
  | "alpha" => some letters
  | "ascii" => some (range 0 0x7F)
  | "blank" => some (ofChars [('\t', '\t'), (' ', ' ')])
  | "cntrl" => some ⟨[(0, 0x1F), (0x7F, 0x7F)]⟩
  | "digit" => some digits
  | "graph" => some (ofChars [('!', '~')])
  | "lower" => some (ofChars [('a', 'z')])
  | "print" => some (ofChars [(' ', '~')])
  | "punct" => some (ofChars [('!', '/'), (':', '@'), ('[', '\x60'), ('\x7b', '~')])
  | "space" => some blanks
  | "upper" => some (ofChars [('A', 'Z')])
  | "word" => some wordChars
  | "xdigit" => some (ofChars [('0', '9'), ('A', 'F'), ('a', 'f')])
  | _ => none

end CharSet

end DeviceFlow.Pattern
