import DeviceFlow.Decimal.Power
import DeviceFlow.Text.Digits

/-!
# Rounded arithmetic

Numbers that are not negative, with a significand of 53 bits as doubles have: every result is
the nearest such number to the exact one, and the even one of two that are equally near. There is
no bound on the exponent; a result that no double reaches can be told by its size, and so can a
decimal that would be read as an infinity.
-/

namespace DeviceFlow.Decimal

/-- The number `significand · 2 ^ exponent`. -/
structure Rounded where
  significand : Nat
  exponent : Int
  deriving DecidableEq, Repr

namespace Rounded

/-- The quotient of two naturals rounded to the nearest one, a tie to the even one. -/
def divideNearest (n d : Nat) : Nat :=
  let q := n / d
  let r := n % d
  if 2 * r < d ∨ (2 * r = d ∧ q % 2 = 0) then q else q + 1

/-- The exponent with which a fraction has a significand of 53 bits. -/
def exponentOf (n d : Nat) : Int :=
  let guess : Int := (n.log2 : Int) - d.log2 - 52
  if d * twoTo guess.toNat * twoTo 52 ≤ n * twoTo (-guess).toNat then guess else guess - 1

/-- The fraction `n / d`, rounded. -/
def ofFraction (n d : Nat) : Rounded :=
  if n = 0 then ⟨0, 0⟩
  else
    let e := exponentOf n d
    ⟨divideNearest (n * twoTo (-e).toNat) (d * twoTo e.toNat), e⟩

/-- A natural number, rounded. -/
def ofNat (n : Nat) : Rounded := ofFraction n 1

/-- The product, rounded. -/
def mul (a b : Rounded) : Rounded :=
  let e := a.exponent + b.exponent
  ofFraction (a.significand * b.significand * twoTo e.toNat) (twoTo (-e).toNat)

/-- The quotient, rounded. -/
def div (a b : Rounded) : Rounded :=
  let e := a.exponent - b.exponent
  ofFraction (a.significand * twoTo e.toNat) (b.significand * twoTo (-e).toNat)

/-- Whether the number is beyond the doubles. -/
def isTooLarge (a : Rounded) : Bool :=
  a.significand ≠ 0 && 1024 ≤ (a.significand.log2 : Int) + a.exponent

/-- The whole part. -/
def floor (a : Rounded) : Nat :=
  a.significand * twoTo a.exponent.toNat / twoTo (-a.exponent).toNat

end Rounded

/-- Whether `digits · 10 ^ exponent` is beyond the doubles. -/
def isTooLarge (digits : List Char) (exponent : Int) : Bool :=
  let significant := digits.dropWhile (· = '0')
  if significant.isEmpty then false
  else if 400 < significant.length + exponent then true
  else if significant.length + exponent < 0 then false
  else
    let m := Text.digitsValue significant
    (if 0 ≤ exponent then Float.ofScientific m false exponent.toNat
      else Float.ofScientific m true (-exponent).toNat).isInf

end DeviceFlow.Decimal
