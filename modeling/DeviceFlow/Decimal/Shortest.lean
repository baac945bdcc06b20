import DeviceFlow.Decimal.Power

/-!
# Shortest decimals

The decimal with the fewest digits that reads back as a given binary number. The numbers
that round to `m · 2 ^ q` fill an interval around it; the wanted decimal is a point of the
coarsest decimal grid that meets the interval, and of two such points the nearer one.
-/

namespace DeviceFlow.Decimal

/-- A decimal `digits · 10 ^ exponent`. -/
structure Scaled where
  /-- The digits, read as one natural number. -/
  digits : Nat
  /-- The power of ten that they count. -/
  exponent : Int
  deriving DecidableEq, Repr

/-- The interval of numbers that round to `m · 2 ^ q`, in quarters of the last place: its
    lower half is shorter below a power of two, where the grid of doubles gets finer. -/
def quarterBelow (m : Nat) (q : Int) : Nat :=
  if m = twoTo 52 ∧ -1074 < q then 1 else 2

/-- The point of the grid of multiples of `10 ^ k` that is nearest to `m · 2 ^ q` among those
    that round to it, an exact tie going up. The ends of the interval belong to it when `m`
    is even, as rounding sends a tie to the even neighbour. -/
def gridPoint? (m : Nat) (q k : Int) : Option Nat :=
  let unit := twoTo (q - 2).toNat * tenTo (-k).toNat
  let grid := twoTo (2 - q).toNat * tenTo k.toNat
  let value := 4 * m * unit
  let low := (4 * m - quarterBelow m q) * unit
  let high := (4 * m + 2) * unit
  let inside (point : Nat) : Bool :=
    if m % 2 = 0 then low ≤ point * grid && point * grid ≤ high
    else low < point * grid && point * grid < high
  let below := value / grid
  let belowInside := inside below
  let aboveInside := inside (below + 1)
  if belowInside && aboveInside then
    if value - below * grid < (below + 1) * grid - value then some below else some (below + 1)
  else if belowInside then some below
  else if aboveInside then some (below + 1)
  else none

/-- The exponents of ten at which a double can need its last digit, from the largest. -/
def gridExponents : List Int :=
  (List.range 636).map fun i : Nat => 309 - (i : Int)

/-- The shortest decimal that rounds to `m · 2 ^ q`, for a positive `m`. -/
def shortest (m : Nat) (q : Int) : Scaled :=
  match gridExponents.findSome? fun k => (gridPoint? m q k).map (Scaled.mk · k) with
  | some decimal => decimal
  | none => ⟨0, 0⟩

/-- A decimal in positional notation, with as many zeros as it takes and no point when it is
    a whole number. -/
def Scaled.positional (d : Scaled) : List Char :=
  let digits := (Nat.toDigits 10 d.digits)
  if 0 ≤ d.exponent then digits ++ List.replicate d.exponent.toNat '0'
  else
    let places := (-d.exponent).toNat
    let padded := List.replicate (places + 1 - digits.length) '0' ++ digits
    let whole := padded.length - places
    padded.take whole ++ '.' :: padded.drop whole

end DeviceFlow.Decimal
