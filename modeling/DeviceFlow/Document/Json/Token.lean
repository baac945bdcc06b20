import DeviceFlow.Decimal.Power
import DeviceFlow.Decimal.Rounded
import DeviceFlow.Document.Node
import DeviceFlow.Text.Digits

/-!
# Tokens of JSON texts

A JSON text is a sequence of structural marks and scalars with blanks between them. Scalars
are turned into their readings here: a number without fraction and exponent is an integer when
64 bits hold it, and a string whose escapes do not make up characters is accepted as long as
nobody wants to read it.
-/

namespace DeviceFlow.Document.Json

/-- A token of a JSON text. -/
inductive Token where
  | listOpen
  | listClose
  | tableOpen
  | tableClose
  | colon
  | comma
  /-- A string; its text is missing when its escapes make no characters. -/
  | text (s : Option String)
  /-- Any other scalar. -/
  | scalar (s : Scalar)

/-- The scalar of a string. -/
def textScalar (text : Option String) : Scalar :=
  match text with
  | some s => ⟨some s, some true, none, none, some s, some (.text s), false⟩
  | none => .unreadable

/-- The scalar of a value that only has a reading by itself. -/
def plainScalar (a : Atom) : Scalar :=
  ⟨none, some (a ≠ .null), none, none, none, some a, false⟩

/-- The scalar of an integer; beyond 64 bits it is a number of another kind. -/
def integerScalar (i : Int) : Scalar :=
  if -(Decimal.twoTo 63 : Int) ≤ i ∧ i < Decimal.twoTo 64 then
    ⟨none, some true, if 0 ≤ i then some i.toNat else none, some i, none, some (.int i), false⟩
  else plainScalar .float

/-- Takes digits into a number as long as 64 bits hold it: the number, and how many digits it has
    taken. -/
def takeDigits (n : Nat) : List Char → Nat × Nat
  | [] => (n, 0)
  | c :: rest =>
    let longer := Text.digitsValue [c] + 10 * n
    if longer < Decimal.twoTo 64 then
      let (n, taken) := takeDigits longer rest
      (n, taken + 1)
    else (n, 0)

/-- Whether a number that is no integer is too large. Its digits count as far as 64 bits hold
    them, and the weight of the last of them is a double, as is the product. -/
def isTooLarge (whole places : List Char) (exponent : Int) : Bool :=
  let (n, taken) := takeDigits 0 whole
  let (n, placesTaken) := takeDigits n places
  let exponent := exponent + (whole.length - taken : Nat) - placesTaken
  n ≠ 0 && 0 ≤ exponent &&
    (308 < exponent ||
      ((Decimal.Rounded.ofNat n).mul
        (Decimal.Rounded.ofNat (Decimal.tenTo exponent.toNat))).isTooLarge)

/-- The scalar of a number given by its parts. -/
def numberScalar (negative : Bool) (whole places : List Char)
    (exponent : Option (Bool × List Char)) : Scalar :=
  let n := Text.digitsValue whole
  match places, exponent with
  | [], none =>
    if n < Decimal.twoTo 64 ∧ ¬(negative ∧ n = 0) then integerScalar (if negative then -n else n)
    else if isTooLarge whole [] 0 then .unreadable
    else plainScalar .float
  | _, _ =>
    let power : Int :=
      match exponent with
      | none => 0
      | some (true, ds) => -(Text.digitsValue ds : Int)
      | some (false, ds) => Text.digitsValue ds
    if isTooLarge whole places power then .unreadable else plainScalar .float

/-- Reads the whole digits of a number: a zero alone, or digits that do not start with one. -/
def wholeDigits? (cs : List Char) : Option (List Char × List Char) :=
  match cs with
  | '0' :: rest =>
    match rest with
    | c :: _ => if c.isDigit then none else some (['0'], rest)
    | [] => some (['0'], rest)
  | _ =>
    let digits := cs.takeWhile Char.isDigit
    if digits.isEmpty then none else some (digits, cs.dropWhile Char.isDigit)

/-- Reads the digits after the point of a number, if it has one. -/
def places? (cs : List Char) : Option (List Char × List Char) :=
  match cs with
  | '.' :: rest =>
    let digits := rest.takeWhile Char.isDigit
    if digits.isEmpty then none else some (digits, rest.dropWhile Char.isDigit)
  | _ => some ([], cs)

/-- Reads the exponent of a number, if it has one: its sign and its digits. -/
def exponent? (cs : List Char) : Option (Option (Bool × List Char) × List Char) :=
  match cs with
  | c :: rest =>
    if c = 'e' ∨ c = 'E' then
      let (negative, rest) :=
        match rest with
        | '+' :: rest => (false, rest)
        | '-' :: rest => (true, rest)
        | _ => (false, rest)
      let digits := rest.takeWhile Char.isDigit
      if digits.isEmpty then none
      else some (some (negative, digits), rest.dropWhile Char.isDigit)
    else some (none, cs)
  | [] => some (none, cs)

/-- Reads a number. -/
def number? (cs : List Char) : Option (Scalar × List Char) := do
  let (negative, cs) :=
    match cs with
    | '-' :: rest => (true, rest)
    | _ => (false, cs)
  let (whole, cs) ← wholeDigits? cs
  let (places, cs) ← places? cs
  let (exponent, cs) ← exponent? cs
  return (numberScalar negative whole places exponent, cs)

/-- The character that a one-letter escape stands for. -/
def escape? (c : Char) : Option Char :=
  match c with
  | '"' => some '"'
  | '\\' => some '\\'
  | '/' => some '/'
  | 'b' => some '\x08'
  | 'f' => some '\x0c'
  | 'n' => some '\n'
  | 'r' => some '\r'
  | 't' => some '\t'
  | _ => none

/-- A unit of a string: a character, or half of one written as an escape. -/
inductive StringUnit where
  | char (c : Char)
  | code (unit : Nat)

/-- Reads the units of a string up to its closing quote. -/
def units? : List Char → Option (List StringUnit × List Char)
  | [] => none
  | '"' :: rest => some ([], rest)
  | '\\' :: 'u' :: a :: b :: c :: d :: rest => do
    let unit :=
      (((← Text.hexValue? a) * 16 + (← Text.hexValue? b)) * 16 + (← Text.hexValue? c)) * 16 +
        (← Text.hexValue? d)
    let (units, rest) ← units? rest
    return (.code unit :: units, rest)
  | '\\' :: c :: rest => do
    let e ← escape? c
    let (units, rest) ← units? rest
    return (.char e :: units, rest)
  | c :: rest =>
    if c = '\\' ∨ c.toNat < 0x20 then none
    else do
      let (units, rest) ← units? rest
      return (.char c :: units, rest)

/-- The characters of the units of a string: two halves, the upper before the lower, make one
    character, and a half on its own makes none. -/
def characters? : List StringUnit → Option (List Char)
  | [] => some []
  | .char c :: rest => (characters? rest).map (c :: ·)
  | .code u :: .code v :: rest =>
    if 0xD800 ≤ u ∧ u < 0xDC00 then
      if 0xDC00 ≤ v ∧ v < 0xE000 then
        (characters? rest).map (Char.ofNat (0x10000 + (u - 0xD800) * 0x400 + (v - 0xDC00)) :: ·)
      else none
    else if 0xDC00 ≤ u ∧ u < 0xE000 then none
    else (characters? (.code v :: rest)).map (Char.ofNat u :: ·)
  | .code u :: rest =>
    if 0xD800 ≤ u ∧ u < 0xE000 then none else (characters? rest).map (Char.ofNat u :: ·)

/-- Reads a string after its opening quote. -/
def string? (cs : List Char) : Option (Option String × List Char) := do
  let (units, rest) ← units? cs
  return ((characters? units).map String.ofList, rest)

/-- Reads a word that has to stand there. -/
def word? (word : String) (a : Atom) (cs : List Char) : Option (Scalar × List Char) :=
  if word.toList.isPrefixOf cs then some (plainScalar a, cs.drop word.length) else none

/-- Reads one token from a text that does not start with a blank. -/
def token? (cs : List Char) : Option (Token × List Char) :=
  match cs with
  | [] => none
  | c :: rest =>
    match c with
    | '[' => some (.listOpen, rest)
    | ']' => some (.listClose, rest)
    | '\x7b' => some (.tableOpen, rest)
    | '\x7d' => some (.tableClose, rest)
    | ':' => some (.colon, rest)
    | ',' => some (.comma, rest)
    | '"' => (string? rest).map fun (s, rest) => (.text s, rest)
    | 'n' => (word? "null" .null cs).map fun (s, rest) => (.scalar s, rest)
    | 't' => (word? "true" (.bool true) cs).map fun (s, rest) => (.scalar s, rest)
    | 'f' => (word? "false" (.bool false) cs).map fun (s, rest) => (.scalar s, rest)
    | _ => (number? cs).map fun (s, rest) => (.scalar s, rest)

/-- The blanks of JSON. -/
def isBlank (c : Char) : Bool :=
  c = ' ' || c = '\t' || c = '\n' || c = '\r'

/-- The tokens of a JSON text. Every token takes at least one character. -/
def tokens? (cs : List Char) : Option (List Token) :=
  match cs with
  | [] => some []
  | c :: rest =>
    if isBlank c then tokens? rest
    else
      match token? (c :: rest) with
      | none => none
      | some (token, after) =>
        if _h : after.length < (c :: rest).length then (tokens? after).map (token :: ·) else none
termination_by cs.length
decreasing_by
  · exact Nat.lt_succ_self rest.length
  · exact _h

end DeviceFlow.Document.Json
