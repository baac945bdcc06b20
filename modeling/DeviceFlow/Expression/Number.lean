import DeviceFlow.Decimal.Binary
import DeviceFlow.Decimal.Power
import DeviceFlow.Decimal.Shortest
import DeviceFlow.Text.Digits

/-!
# Numbers in expressions

How an expression reads and writes its numbers. A literal is digits with at most one point;
a result is written as an integer when it is one of moderate size, and otherwise as the
shortest decimal that reads back, never with an exponent.
-/

namespace DeviceFlow.Expression

open Decimal (twoTo)

/-- Reads a literal: digits with at most one point, and at least one digit. -/
def readNumber? (cs : List Char) : Option Float :=
  let whole := cs.takeWhile (· ≠ '.')
  let places := (cs.dropWhile (· ≠ '.')).drop 1
  if (whole ++ places).all Char.isDigit && !(whole ++ places).isEmpty then
    some (Float.ofScientific (Text.digitsValue (whole ++ places)) true places.length)
  else none

/-- Whether a double is a whole number of magnitude below `2 ^ 63`, and then which. -/
def smallInteger? (m : Nat) (q : Int) : Option Nat :=
  let whole := m * twoTo q.toNat / twoTo (-q).toNat
  if whole * twoTo (-q).toNat = m * twoTo q.toNat ∧ whole < twoTo 63 then some whole else none

/-- A number as text. Whole numbers below `2 ^ 63` in magnitude are written exactly and zero
    has no sign; all others are written as the shortest decimal that reads back. -/
def formatNumber (x : Float) : String :=
  match Decimal.Binary.ofFloat x with
  | .nan => "NaN"
  | .infinite negative => if negative then "-inf" else "inf"
  | .finite negative m q =>
    let sign (digits : List Char) : String :=
      String.ofList (if negative && m ≠ 0 then '-' :: digits else digits)
    match smallInteger? m q with
    | some n => sign (Nat.toDigits 10 n)
    | none => sign (Decimal.shortest m q).positional

end DeviceFlow.Expression
