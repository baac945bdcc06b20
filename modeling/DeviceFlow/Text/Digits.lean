/-!
# Digits

The numbers that runs of digits stand for, and the digits in which durations are shown in log
records: in seconds from one second on, else in milliseconds.
-/

namespace DeviceFlow.Text

/-- The value of decimal digits. -/
def digitsValue (cs : List Char) : Nat :=
  cs.foldl (fun n c => 10 * n + (c.toNat - '0'.toNat)) 0

/-- The value of a hexadecimal digit. -/
def hexValue? (c : Char) : Option Nat :=
  if c.isDigit then some (c.toNat - '0'.toNat)
  else if 'a' ≤ c ∧ c ≤ 'f' then some (c.toNat - 'a'.toNat + 10)
  else if 'A' ≤ c ∧ c ≤ 'F' then some (c.toNat - 'A'.toNat + 10)
  else none

/-- The value of the digits of some base up to sixteen, of which there is at least one. -/
def radixValue? (base : Nat) (cs : List Char) : Option Nat :=
  if cs.isEmpty then none
  else
    cs.foldlM (fun n c => do
      let d ← hexValue? c
      if d < base then some (base * n + d) else none) 0

/-- The digits of a fraction of a second, without the zeros at the end. -/
def fractionDigits (ms : Nat) : List Char :=
  let digits := Nat.toDigits 10 (1000 + ms) |>.drop 1
  (digits.reverse.dropWhile (· = '0')).reverse

/-- A duration in milliseconds as text. -/
def durationText (ms : Nat) : String :=
  if ms = 0 then "0ns"
  else if ms < 1000 then s!"{ms}ms"
  else
    match fractionDigits (ms % 1000) with
    | [] => s!"{ms / 1000}s"
    | digits => s!"{ms / 1000}." ++ String.ofList digits ++ "s"

end DeviceFlow.Text
