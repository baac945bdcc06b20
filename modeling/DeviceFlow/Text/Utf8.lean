/-!
# Bytes as text

Reading bytes as UTF-8 text when nothing is known about them. Whatever is not part of a
character is replaced: the longest start of a character that cannot be completed by one
replacement character, and a byte that starts no character by another.
-/

namespace DeviceFlow.Text

/-- The character that stands for what is no text. -/
def replacement : Char := '\ufffd'

/-- The bytes that may follow the first byte of a character: the range of the second byte, and
    the number of bytes after that. None when no character starts with the byte. -/
def continuation? (first : Nat) : Option (Nat × Nat × Nat) :=
  if 0xC2 ≤ first ∧ first ≤ 0xDF then some (0x80, 0xBF, 0)
  else if first = 0xE0 then some (0xA0, 0xBF, 1)
  else if first = 0xED then some (0x80, 0x9F, 1)
  else if 0xE1 ≤ first ∧ first ≤ 0xEF then some (0x80, 0xBF, 1)
  else if first = 0xF0 then some (0x90, 0xBF, 2)
  else if 0xF1 ≤ first ∧ first ≤ 0xF3 then some (0x80, 0xBF, 2)
  else if first = 0xF4 then some (0x80, 0x8F, 2)
  else none

/-- The bits of the first byte that belong to the code of the character. -/
def leadBits (first : Nat) : Nat :=
  if first < 0xE0 then first % 0x20 else if first < 0xF0 then first % 0x10 else first % 8

/-- What the reader is in the middle of. -/
inductive Decoding where
  /-- Between two characters. -/
  | between
  /-- Inside a character: its code so far, the range of the next byte, and the number of bytes
      after that. -/
  | inside (code low high left : Nat)

/-- Reads bytes as text. -/
def decodeFrom : Decoding → List UInt8 → List Char
  | .between, [] => []
  | .inside .., [] => [replacement]
  | .between, b :: rest =>
    let n := b.toNat
    if n < 0x80 then Char.ofNat n :: decodeFrom .between rest
    else
      match continuation? n with
      | some (low, high, left) => decodeFrom (.inside (leadBits n) low high left) rest
      | none => replacement :: decodeFrom .between rest
  | .inside code low high left, b :: rest =>
    let n := b.toNat
    if low ≤ n ∧ n ≤ high then
      let code := code * 0x40 + n % 0x40
      match left with
      | 0 => Char.ofNat code :: decodeFrom .between rest
      | left + 1 => decodeFrom (.inside code 0x80 0xBF left) rest
    else if n < 0x80 then replacement :: Char.ofNat n :: decodeFrom .between rest
    else
      match continuation? n with
      | some (low, high, left) =>
        replacement :: decodeFrom (.inside (leadBits n) low high left) rest
      | none => replacement :: replacement :: decodeFrom .between rest

/-- The text of bytes. -/
def decodeLossy (bytes : List UInt8) : String :=
  String.ofList (decodeFrom .between bytes)

end DeviceFlow.Text
