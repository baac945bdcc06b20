import DeviceFlow.Decimal.Power
import DeviceFlow.Decimal.Rounded
import DeviceFlow.Document.Node
import DeviceFlow.Document.Yaml.Token

/-!
# Scalars of YAML texts

What may be read from a scalar of a YAML text. Every scalar is a text where a text is wanted.
A plain scalar is also a number where a number is wanted, and by itself it is what it looks
like: nothing, a truth value, a number, or else a text. Tags settle some of these questions
and forbid others.
-/

namespace DeviceFlow.Document.Yaml

/-- Whether a plain scalar stands for nothing. -/
def isNullWord (s : String) : Bool :=
  ["null", "Null", "NULL", "~"].contains s

/-- The truth value that a plain scalar stands for. -/
def boolWord? (s : String) : Option Bool :=
  if ["true", "True", "TRUE"].contains s then some true
  else if ["false", "False", "FALSE"].contains s then some false
  else none

/-- Splits off a sign. -/
def splitSign : List Char → Option Bool × List Char
  | '+' :: rest => (some false, rest)
  | '-' :: rest => (some true, rest)
  | cs => (none, cs)

/-- Whether digits start with a zero that is not the whole number; such a scalar is a text. -/
def isPaddedNumber (cs : List Char) : Bool :=
  let digits := (splitSign cs).2
  1 < digits.length && digits.head? = some '0' && digits.all Char.isDigit

/-- The magnitude of an integer without its sign, in one of four bases. -/
def magnitude? : List Char → Option Nat
  | '0' :: 'x' :: rest => Text.radixValue? 16 rest
  | '0' :: 'o' :: rest => Text.radixValue? 8 rest
  | '0' :: 'b' :: rest => Text.radixValue? 2 rest
  | cs => if isPaddedNumber cs then none else Text.radixValue? 10 cs

/-- The integer that a plain scalar stands for. -/
def integer? (cs : List Char) : Option Int :=
  match splitSign cs with
  | (some true, rest) => (magnitude? rest).map fun n => -(n : Int)
  | (_, rest) => (magnitude? rest).map fun n => (n : Int)

/-- Whether a plain scalar stands for a finite decimal number. -/
def isDecimal (cs : List Char) : Bool :=
  let body := (splitSign cs).2
  let mantissa := body.takeWhile fun c => c ≠ 'e' && c ≠ 'E'
  let whole := mantissa.takeWhile Char.isDigit
  let places := mantissa.dropWhile Char.isDigit
  let digits := whole ++ places.drop 1
  let exponent := (body.dropWhile fun c => c ≠ 'e' && c ≠ 'E')
  let power := splitSign (exponent.drop 1)
  let value : Int := Text.digitsValue power.2
  (places.isEmpty || places.head? = some '.') && !digits.isEmpty && digits.all Char.isDigit &&
    (exponent.isEmpty || (!power.2.isEmpty && power.2.all Char.isDigit)) &&
    !Decimal.isTooLarge digits
      ((if power.1 = some true then -value else value) - (places.drop 1).length)

/-- Whether a plain scalar stands for a number that is no integer. -/
def isFloatWord (cs : List Char) : Bool :=
  let special (words : List String) (cs : List Char) := words.contains (String.ofList cs)
  let unsigned := match cs with | '+' :: rest => rest | _ => cs
  special [".inf", ".Inf", ".INF"] unsigned || special ["-.inf", "-.Inf", "-.INF"] cs ||
    special [".nan", ".NaN", ".NAN"] cs || isDecimal cs

/-- What an integer is by itself. Beyond 64 bits it is refused as long as 128 bits hold it. -/
def integerAtom (text : String) (i : Int) : Option (Option Atom) :=
  if i = 0 ∧ text.toList.head? = some '-' then some (some .minusZero)
  else if -(Decimal.twoTo 63 : Int) ≤ i ∧ i < Decimal.twoTo 64 then some (some (.int i))
  else if -(Decimal.twoTo 127 : Int) ≤ i ∧ i < Decimal.twoTo 128 then some none
  else none

/-- What a plain scalar without a tag is by itself. -/
def plainAtom (s : String) : Option Atom :=
  if s.isEmpty || isNullWord s then some .null
  else
    match boolWord? s with
    | some b => some (.bool b)
    | none =>
      match (integer? s.toList).bind (integerAtom s) with
      | some a => a
      | none =>
        if !isPaddedNumber s.toList && isFloatWord s.toList then some .float else some (.text s)

/-- The name in a tag of the document's own. -/
def ownName? (tag : Option Tag) : Option String := tag.bind Tag.ownName?

/-- What a scalar is by itself. A tag of the document's own says nothing about that, and is
    refused unless its name is no text. -/
def atom? (text : String) (style : Style) (tag : Option Tag) : Option Atom :=
  match tag with
  | none => if style = .plain then plainAtom text else some (.text text)
  | some t =>
    if t.ownName?.isSome then none
    else if t.isOwn && style = .plain then plainAtom text
    else if t = .core "bool" then (boolWord? text).map .bool
    else if t = .core "int" then ((integer? text.toList).bind (integerAtom text)).join
    else if t = .core "float" then if isFloatWord text.toList then some .float else none
    else if t = .core "null" then if isNullWord text then some .null else none
    else some (.text text)

/-- Whether there is anything at all. -/
def present? (text : String) (style : Style) (tag : Option Tag) : Option Bool :=
  if style ≠ .plain then some true
  else
    match tag with
    | some t =>
      if t = .core "null" then if isNullWord text then some false else none else some true
    | none => some (!text.isEmpty && !isNullWord text)

/-- The integer of a scalar, where one is wanted. -/
def wantedInteger? (text : String) (style : Style) (tag : Option Tag) : Option Int :=
  if style = .plain ∨ (style = .literal ∧ tag = some (.core "int")) then integer? text.toList
  else none

/-- The name of a scalar, where one of several names is wanted: the scalar itself, or a tag of
    the document's own on nothing. -/
def choice? (text : String) (style : Style) (tag : Option Tag) : Option String :=
  match ownName? tag with
  | some name => if style = .plain ∧ (text.isEmpty ∨ isNullWord text) then some name else none
  | none => some text

/-- A scalar with its readings. -/
def scalar (text : String) (style : Style) (tag : Option Tag) : Scalar where
  text := some text
  present := present? text style tag
  natural := (wantedInteger? text style tag).bind fun i =>
    if 0 ≤ i ∧ i < Decimal.twoTo 64 ∧ text.toList.head? ≠ some '-' then some i.toNat else none
  integer := (wantedInteger? text style tag).bind fun i =>
    if -(Decimal.twoTo 63 : Int) ≤ i ∧ i < Decimal.twoTo 63 then some i else none
  choice := choice? text style tag
  atom := atom? text style tag
  isHollow := text.isEmpty && style = .plain

end DeviceFlow.Document.Yaml
