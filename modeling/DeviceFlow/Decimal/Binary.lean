import DeviceFlow.Decimal.Power

/-!
# Floating-point numbers as exact fractions

A finite double is a sign and a value `m · 2 ^ q` with a natural `m`. Reading the bit pattern
that way gives exact integer arithmetic for everything that rounding must not disturb, here
the remainder of a division.
-/

namespace DeviceFlow.Decimal

/-- What a double denotes. -/
inductive Binary where
  /-- Not a number. -/
  | nan
  /-- An infinity, with its sign. -/
  | infinite (negative : Bool)
  /-- The number `± mantissa · 2 ^ exponent`. -/
  | finite (negative : Bool) (mantissa : Nat) (exponent : Int)
  deriving DecidableEq, Repr

/-- The number of bits of a mantissa that are written down. -/
def fractionBits : Nat := 52

/-- Takes a double apart. Numbers below the normal range have the least exponent and no
    implicit leading bit. -/
def Binary.ofFloat (x : Float) : Binary :=
  let bits := x.toBits.toNat
  let negative := bits / twoTo 63 == 1
  let biased : Nat := bits / twoTo fractionBits % twoTo 11
  let fraction := bits % twoTo fractionBits
  if biased = twoTo 11 - 1 then
    if fraction = 0 then .infinite negative else .nan
  else if biased = 0 then .finite negative fraction (-1074)
  else .finite negative (fraction + twoTo fractionBits) ((biased : Int) - 1075)

/-- The double `± mantissa · 2 ^ exponent`, for a value that is a double. -/
def compose (negative : Bool) (mantissa : Nat) (exponent : Int) : Float :=
  let magnitude := Float.scaleB (Float.ofNat mantissa) exponent
  if negative then -magnitude else magnitude

/-- The remainder of a division truncated toward zero: it has the sign of the dividend and
    is smaller than the divisor. It is exact, hence never rounded. -/
def remainder (x y : Float) : Float :=
  match Binary.ofFloat x, Binary.ofFloat y with
  | .nan, _ | _, .nan | .infinite _, _ => 0.0 / 0.0
  | .finite .., .infinite _ => x
  | .finite negative m p, .finite _ n q =>
    if n = 0 then 0.0 / 0.0
    else
      let low := min p q
      let dividend := m * twoTo (p - low).toNat
      let divisor := n * twoTo (q - low).toNat
      compose negative (dividend % divisor) low

end DeviceFlow.Decimal
