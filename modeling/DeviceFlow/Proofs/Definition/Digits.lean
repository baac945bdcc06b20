import DeviceFlow.Text.Digits
import DeviceFlow.Timestamp

/-!
# Written numbers

The digits of a number are read as the number, with zeros before them or without, and a reader of
digits stops where they end.
-/

namespace DeviceFlow

namespace Text

variable {cs rest : List Char} {c : Char}

theorem digitsValue_eq_ofDigitChars (cs : List Char) :
    digitsValue cs = Nat.ofDigitChars 10 cs 0 := rfl

theorem digitsValue_toDigits (n : Nat) : digitsValue (Nat.toDigits 10 n) = n := by
  rw [digitsValue_eq_ofDigitChars, Nat.ofDigitChars_ten_toDigits]

theorem isDigit_of_mem_toDigits {n : Nat} (h : c ∈ Nat.toDigits 10 n) : c.isDigit = true :=
  Nat.isDigit_of_mem_toDigits (by decide) (by decide) h

/-- The digits at the beginning of a text are taken, and no more. -/
theorem takeWhile_isDigit (hcs : ∀ c ∈ cs, c.isDigit = true)
    (hrest : ∀ c ∈ rest.head?, c.isDigit = false) : (cs ++ rest).takeWhile Char.isDigit = cs := by
  rw [List.takeWhile_append_of_pos hcs]
  cases rest with
  | nil => simp
  | cons c rest => simp [hrest c (by simp)]

theorem dropWhile_isDigit (hcs : ∀ c ∈ cs, c.isDigit = true)
    (hrest : ∀ c ∈ rest.head?, c.isDigit = false) :
    (cs ++ rest).dropWhile Char.isDigit = rest := by
  rw [List.dropWhile_append_of_pos hcs]
  cases rest with
  | nil => rfl
  | cons c rest => simp [hrest c (by simp)]

theorem isBlank_of_isDigit (h : c.isDigit = true) : isBlank c = false := by
  rw [Char.isDigit_iff_toNat] at h
  have hlow : 48 ≤ c.toNat := h.1
  have hhigh : c.toNat ≤ 57 := h.2
  unfold isBlank
  simp
  omega

theorem trimStart_cons (h : isBlank c = false) : trimStart (c :: rest) = c :: rest := by
  simp [trimStart, h]

end Text

namespace Timestamp

open Text

variable {width n : Nat} {rest : List Char} {c : Char}

theorem isDigit_of_mem_padded (h : c ∈ padded width n) : c.isDigit = true := by
  unfold padded at h
  rcases List.mem_append.mp h with hzero | hdigit
  · rw [(List.mem_replicate.mp hzero).2]
    rfl
  · exact isDigit_of_mem_toDigits hdigit

theorem length_padded (hwidth : 0 < width) (hn : n < Decimal.tenTo width) :
    (padded width n).length = width := by
  have hlength := (Nat.length_toDigits_le_iff (b := 10) (by decide) hwidth).mpr hn
  unfold padded
  rw [List.length_append, List.length_replicate]
  omega

theorem digitsValue_padded (width n : Nat) : digitsValue (padded width n) = n := by
  unfold padded
  rw [digitsValue_eq_ofDigitChars, Nat.ofDigitChars_append, Nat.ofDigitChars_replicate_zero,
    Nat.mul_zero, Nat.ofDigitChars_ten_toDigits]

theorem padded_ne_nil (width n : Nat) : padded width n ≠ [] := by
  unfold padded
  simp

/-- A padded number begins with a digit. -/
theorem exists_padded_eq_cons (width n : Nat) :
    ∃ c cs, padded width n = c :: cs ∧ c.isDigit = true := by
  obtain ⟨c, cs, hcs⟩ := List.exists_cons_of_ne_nil (padded_ne_nil width n)
  exact ⟨c, cs, hcs, isDigit_of_mem_padded (hcs ▸ List.mem_cons_self)⟩

/-- Nothing is dropped before a padded number. -/
theorem trimStart_padded_append (width n : Nat) (rest : List Char) :
    trimStart (padded width n ++ rest) = padded width n ++ rest := by
  obtain ⟨c, cs, hcs, hdigit⟩ := exists_padded_eq_cons width n
  rw [hcs, List.cons_append]
  exact trimStart_cons (isBlank_of_isDigit hdigit)

/-- A padded number of the greatest width that is read is read as it is. -/
theorem number?_padded (hwidth : 0 < width) (hn : n < Decimal.tenTo width) :
    number? width (padded width n ++ rest) = some (n, rest) := by
  have hlength := length_padded hwidth hn
  have htake : (padded width n ++ rest).take width = padded width n :=
    List.take_left' hlength
  have hdigits : (padded width n ++ []).takeWhile Char.isDigit = padded width n :=
    takeWhile_isDigit (fun c hc => isDigit_of_mem_padded hc) (by simp)
  rw [List.append_nil] at hdigits
  have hnonempty : (padded width n).isEmpty = false := by
    simp [padded_ne_nil]
  unfold number?
  simp only [htake, hdigits, hnonempty, digitsValue_padded, List.drop_left]
  rfl

end Timestamp

end DeviceFlow
