import DeviceFlow.Proofs.Definition.Digits

/-!
# Written moments

The text of a moment in one of the years that are written with four digits is read as this moment,
with all its digits. Each part of the text is read by a lemma of its own, from the year to the
letter of the zero offset.
-/

namespace DeviceFlow.Timestamp

open Text

variable {t : Timestamp} {n : Nat} {rest : List Char}

/-- A moment of the calendar in one of the years 0 to 9999. -/
def Tellable (t : Timestamp) : Prop := t.Valid ∧ 0 ≤ t.year ∧ t.year ≤ 9999

instance (t : Timestamp) : Decidable t.Tellable :=
  inferInstanceAs (Decidable (t.Valid ∧ 0 ≤ t.year ∧ t.year ≤ 9999))

theorem field?_padded (hn : n < 100) : field? (padded 2 n ++ rest) = some (n, rest) := by
  unfold field?
  rw [trimStart_padded_append]
  exact number?_padded (by decide) hn

theorem year?_padded (hn : n < 10000) : year? (padded 4 n ++ rest) = some ((n : Int), rest) := by
  have hnumber : number? 4 (padded 4 n ++ rest) = some (n, rest) := number?_padded (by decide) hn
  obtain ⟨c, cs, hcs, hdigit⟩ := exists_padded_eq_cons 4 n
  unfold year?
  rw [trimStart_padded_append]
  rw [hcs, List.cons_append] at hnumber ⊢
  -- A digit is no sign.
  split
  · rename_i heq
    rw [(List.cons.inj heq).1] at hdigit
    cases hdigit
  · rename_i heq
    rw [(List.cons.inj heq).1] at hdigit
    cases hdigit
  · rw [hnumber]
    rfl

theorem mark?_cons (mark : Char) (hmark : isBlank mark = false) :
    mark? mark (mark :: rest) = some rest := by
  unfold mark?
  rw [trimStart_cons hmark]
  exact if_pos rfl

/-- Up to nine written places of a second are read as they are. -/
theorem fraction?_padded {places : Nat} (hpos : 0 < places) (hplaces : places ≤ 9)
    (hn : n < Decimal.tenTo places) (hrest : ∀ c ∈ rest.head?, c.isDigit = false) :
    fraction? ('.' :: (padded places n ++ rest)) =
      some (n * Decimal.tenTo (9 - places), rest) := by
  have hdigits : ∀ c ∈ padded places n, c.isDigit = true := fun c hc => isDigit_of_mem_padded hc
  have hlength := length_padded hpos hn
  have hkept : (padded places n).take 9 = padded places n :=
    List.take_of_length_le (by omega)
  have hnonempty : (padded places n).isEmpty = false := by simp [padded_ne_nil]
  unfold fraction?
  simp only [takeWhile_isDigit hdigits hrest, dropWhile_isDigit hdigits hrest, hnonempty, hkept,
    digitsValue_padded, hlength]
  rfl

/-- The fraction of a second is read with as many places as it is written with. -/
theorem fraction?_fractionText {nanos : Nat} (hnanos : nanos < 1000000000) :
    fraction? (fractionText nanos ++ ['Z']) = some (nanos, ['Z']) := by
  have hend : ∀ c ∈ ['Z'].head?, c.isDigit = false := by
    intro c hc
    cases hc
    rfl
  unfold fractionText
  split
  · rename_i hzero
    subst hzero
    rfl
  · split
    · rename_i hmillis
      have hsmall : nanos / 1000000 < 1000 := by omega
      rw [List.cons_append, fraction?_padded (by decide) (by decide) hsmall hend]
      have hvalue : nanos / 1000000 * Decimal.tenTo (9 - 3) = nanos :=
        Nat.div_mul_cancel (Nat.dvd_of_mod_eq_zero hmillis)
      rw [hvalue]
    · split
      · rename_i hmicros
        have hsmall : nanos / 1000 < 1000000 := by omega
        rw [List.cons_append, fraction?_padded (by decide) (by decide) hsmall hend]
        have hvalue : nanos / 1000 * Decimal.tenTo (9 - 6) = nanos :=
          Nat.div_mul_cancel (Nat.dvd_of_mod_eq_zero hmicros)
        rw [hvalue]
      · rw [List.cons_append, fraction?_padded (by decide) (by decide) hnanos hend]
        have hvalue : nanos * Decimal.tenTo (9 - 9) = nanos := Nat.mul_one nanos
        rw [hvalue]

theorem offset?_zero : offset? ['Z'] = some (0, []) := by decide

/-- Clocks without an offset show the moment itself. -/
theorem atOffset_zero (hhour : t.hour < 24) (hminute : t.minute < 60) : t.atOffset 0 = t := by
  have hminutes : (((t.hour * 60 + t.minute : Int) - 0) % 1440).toNat = t.hour * 60 + t.minute := by
    omega
  have hday : ¬ ((t.hour * 60 + t.minute : Int) - 0 < 0) := by omega
  have hnext : (t.hour * 60 + t.minute : Int) - 0 < 1440 := by omega
  unfold atOffset
  simp only [hminutes, if_neg hday, if_pos hnext]
  have hdiv : (t.hour * 60 + t.minute) / 60 = t.hour := by omega
  have hmod : (t.hour * 60 + t.minute) % 60 = t.minute := by omega
  rw [hdiv, hmod]

theorem daysInMonth_le (year : Int) (month : Nat) : daysInMonth year month ≤ 31 := by
  unfold daysInMonth
  split
  · split
    · decide
    · decide
  · split
    · decide
    · decide

/-- The text of a moment is read as this moment. -/
theorem ofText?_text (h : t.Tellable) : ofText? t.text = some t := by
  obtain ⟨hvalid, hleast, hgreatest⟩ := h
  have hfields := hvalid
  obtain ⟨_, _, _, hmonth, _, hday, hhour, hminute, hsecond, hnanos⟩ := hfields
  have hyear : ((t.year.toNat : Nat) : Int) = t.year := Int.toNat_of_nonneg hleast
  have hdays : t.day < 100 := by
    have hmost := daysInMonth_le t.year t.month
    omega
  have hthen : ∀ {α β : Type} (a : α) (f : α → Option β), (some a >>= f) = f a := fun _ _ => rfl
  have hoffset := atOffset_zero hhour hminute
  unfold ofText? text chars ofChars? yearText
  rw [if_pos ⟨hleast, hgreatest⟩, String.toList_ofList]
  simp only [List.append_assoc, List.cons_append]
  rw [year?_padded (n := t.year.toNat) (by omega), hthen, mark?_cons '-' rfl, hthen,
    field?_padded (n := t.month) (by omega), hthen, mark?_cons '-' rfl, hthen,
    field?_padded hdays, hthen]
  dsimp only
  rw [if_pos (.inl rfl), hthen, field?_padded (n := t.hour) (by omega), hthen,
    mark?_cons ':' rfl, hthen, field?_padded (n := t.minute) (by omega), hthen,
    mark?_cons ':' rfl, hthen, field?_padded (n := t.second) (by omega), hthen,
    fraction?_fractionText hnanos, hthen, offset?_zero, hthen]
  dsimp only
  rw [hyear, hoffset, if_pos ⟨rfl, hvalid, hvalid⟩]

end DeviceFlow.Timestamp
