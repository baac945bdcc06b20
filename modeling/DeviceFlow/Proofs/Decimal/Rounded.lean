import DeviceFlow.Decimal.Rounded
import Mathlib.Algebra.Order.Field.Power
import Mathlib.Algebra.Order.Floor.Semifield
import Mathlib.Data.Rat.Floor
import Mathlib.Tactic.FieldSimp
import Mathlib.Tactic.Linarith
import Mathlib.Tactic.NormNum
import Mathlib.Tactic.Positivity
import Mathlib.Tactic.Ring

/-!
# The error of rounding

A rounded number differs from the exact one by no more than the unit roundoff, in proportion to the
exact one. That is shown once, of the rounding of a fraction; products, quotients and natural
numbers are fractions.
-/

namespace DeviceFlow.Decimal.Rounded

/-- The number that is meant. -/
def value (a : Rounded) : ℚ := a.significand * 2 ^ a.exponent

/-- How much a number of 53 bits may differ from the exact one, in proportion. -/
def unitRoundoff : ℚ := 1 / 2 ^ 53

/-- A number stands for an exact one, but for the error of one rounding. -/
def Near (a : Rounded) (x : ℚ) : Prop := |a.value - x| ≤ x * unitRoundoff

variable {a b : Rounded} {x : ℚ} {n d : Nat}

theorem value_nonneg (a : Rounded) : 0 ≤ a.value := by
  unfold value
  positivity

theorem Near.le (h : a.Near x) : a.value ≤ x * (1 + unitRoundoff) := by
  have := (abs_le.mp h).2
  linarith

theorem Near.ge (h : a.Near x) : x * (1 - unitRoundoff) ≤ a.value := by
  have := (abs_le.mp h).1
  linarith

theorem Near.pos (h : a.Near x) (hx : 0 < x) : 0 < a.value := by
  have hu : (0 : ℚ) < 1 - unitRoundoff := by norm_num [unitRoundoff]
  exact (mul_pos hx hu).trans_le h.ge

/-! ## Scaling by powers of two -/

theorem cast_twoTo (k : Nat) : ((twoTo k : Nat) : ℚ) = 2 ^ k := by
  simp [twoTo]

/-- A power of two is split into what multiplies and what divides. -/
theorem two_pow_toNat (e : Int) : (2 : ℚ) ^ e.toNat = 2 ^ e * 2 ^ (-e).toNat := by
  rw [← zpow_natCast, ← zpow_natCast, ← zpow_add₀ two_ne_zero]
  congr 1
  omega

/-- The whole numbers whose quotient is rounded make up the fraction without its exponent. -/
theorem scaled_fraction (n d : Nat) (e : Int) :
    ((n * twoTo (-e).toNat : Nat) : ℚ) / (d * twoTo e.toNat : Nat) * 2 ^ e = n / d := by
  have he : (2 : ℚ) ^ e ≠ 0 := zpow_ne_zero _ two_ne_zero
  have hdown : (2 : ℚ) ^ (-e).toNat ≠ 0 := pow_ne_zero _ two_ne_zero
  push_cast [cast_twoTo]
  rw [two_pow_toNat e]
  by_cases hd : (d : ℚ) = 0
  · simp [hd]
  · field_simp

theorem scale_le_iff (n d : Nat) (e : Int) :
    d * twoTo e.toNat * twoTo 52 ≤ n * twoTo (-e).toNat ↔ (d : ℚ) * 2 ^ e * 2 ^ 52 ≤ n := by
  have hdown : (0 : ℚ) < 2 ^ (-e).toNat := by positivity
  rw [← Nat.cast_le (α := ℚ)]
  push_cast [cast_twoTo]
  rw [two_pow_toNat e, ← mul_assoc, mul_right_comm, mul_le_mul_iff_of_pos_right hdown]

/-! ## One rounding -/

/-- The nearest natural number to a fraction differs from it by half at most. -/
theorem abs_divideNearest_sub (n : Nat) (hd : 0 < d) :
    |(divideNearest n d : ℚ) - n / d| ≤ 1 / 2 := by
  have hd' : (0 : ℚ) < d := by exact_mod_cast hd
  have hdiv : (d : ℚ) * (n / d : Nat) + (n % d : Nat) = n := by exact_mod_cast Nat.div_add_mod n d
  have hmod : ((n % d : Nat) : ℚ) < d := by exact_mod_cast Nat.mod_lt n hd
  have hfraction : (n : ℚ) / d = (n / d : Nat) + (n % d : Nat) / d := by
    rw [← hdiv]
    field_simp
  -- The quotient misses the fraction by the remainder's part of the divisor.
  have hrest : ((n % d : Nat) : ℚ) / d < 1 := (div_lt_one hd').mpr hmod
  unfold divideNearest
  simp only
  rw [hfraction, abs_le]
  split
  · have hhalf : 2 * ((n % d : Nat) : ℚ) ≤ d := by exact_mod_cast (by omega : 2 * (n % d) ≤ d)
    have hle : ((n % d : Nat) : ℚ) / d ≤ 1 / 2 := by
      rw [div_le_div_iff₀ hd' two_pos]
      linarith
    have hnonneg : (0 : ℚ) ≤ ((n % d : Nat) : ℚ) / d := by positivity
    constructor
    · linarith
    · linarith
  · have hhalf : (d : ℚ) ≤ 2 * ((n % d : Nat) : ℚ) := by
      exact_mod_cast (by omega : d ≤ 2 * (n % d))
    have hle : 1 / 2 ≤ ((n % d : Nat) : ℚ) / d := by
      rw [div_le_div_iff₀ two_pos hd']
      linarith
    push_cast
    constructor
    · linarith
    · linarith

/-- The exponent of a fraction leaves a significand of 53 bits. -/
theorem exponentOf_le (d : Nat) (hn : 0 < n) :
    (d : ℚ) * 2 ^ exponentOf n d * 2 ^ 52 ≤ n := by
  unfold exponentOf
  simp only
  split_ifs with hguess
  · exact (scale_le_iff n d _).mp hguess
  · have hlow : (2 : ℚ) ^ n.log2 ≤ n := by exact_mod_cast Nat.log2_self_le hn.ne'
    have hhigh : (d : ℚ) ≤ 2 ^ (d.log2 + 1) := by exact_mod_cast Nat.lt_log2_self.le
    have hexponent : ((n.log2 : Int) - d.log2 - 52 - 1) + (d.log2 + 1 : Nat) + (52 : Nat) =
        (n.log2 : Nat) := by omega
    calc (d : ℚ) * 2 ^ ((n.log2 : Int) - d.log2 - 52 - 1) * 2 ^ 52
        ≤ 2 ^ (d.log2 + 1) * 2 ^ ((n.log2 : Int) - d.log2 - 52 - 1) * 2 ^ 52 := by gcongr
      _ = 2 ^ n.log2 := by
        rw [← zpow_natCast 2 (d.log2 + 1), ← zpow_natCast 2 52, ← zpow_natCast 2 n.log2,
          ← zpow_add₀ two_ne_zero, ← zpow_add₀ two_ne_zero, ← hexponent]
        congr 1
        omega
      _ ≤ n := hlow

/-- A fraction that is rounded differs from the exact one by the unit roundoff at most. -/
theorem ofFraction_near (n : Nat) (hd : 0 < d) : (ofFraction n d).Near (n / d) := by
  by_cases hn : n = 0
  · simp [ofFraction, hn, Near, value]
  · have hpos : 0 < n := Nat.pos_of_ne_zero hn
    have hd' : (0 : ℚ) < d := by exact_mod_cast hd
    set e := exponentOf n d with he
    have hscale : (0 : ℚ) < 2 ^ e := by positivity
    have hdown : 0 < d * twoTo e.toNat := Nat.mul_pos hd (Nat.pow_pos Nat.two_pos)
    have hnearest := abs_divideNearest_sub (n * twoTo (-e).toNat) hdown
    have hbits : 2 ^ e * 2 ^ 52 ≤ (n : ℚ) / d := by
      rw [le_div_iff₀ hd']
      linarith [exponentOf_le d hpos]
    unfold Near value ofFraction
    rw [if_neg hn]
    simp only [← he]
    calc |(divideNearest (n * twoTo (-e).toNat) (d * twoTo e.toNat) : ℚ) * 2 ^ e - n / d|
        = |((divideNearest (n * twoTo (-e).toNat) (d * twoTo e.toNat) : ℚ) -
            (n * twoTo (-e).toNat : Nat) / (d * twoTo e.toNat : Nat)) * 2 ^ e| := by
          rw [sub_mul, scaled_fraction]
      _ ≤ 1 / 2 * 2 ^ e := by
          rw [abs_mul, abs_of_pos hscale]
          gcongr
      _ = 2 ^ e * 2 ^ 52 * unitRoundoff := by
          rw [unitRoundoff]
          ring
      _ ≤ n / d * unitRoundoff := by
          gcongr
          norm_num [unitRoundoff]

theorem ofNat_near (n : Nat) : (ofNat n).Near n := by
  have hnear := ofFraction_near n Nat.one_pos
  rw [Nat.cast_one, div_one] at hnear
  exact hnear

theorem mul_near (a b : Rounded) : (a.mul b).Near (a.value * b.value) := by
  have hd : 0 < twoTo (-(a.exponent + b.exponent)).toNat := Nat.pow_pos Nat.two_pos
  have hnear := ofFraction_near
    (a.significand * b.significand * twoTo (a.exponent + b.exponent).toNat) hd
  have hvalue : ((a.significand * b.significand * twoTo (a.exponent + b.exponent).toNat : Nat) : ℚ)
      / (twoTo (-(a.exponent + b.exponent)).toNat : Nat) = a.value * b.value := by
    push_cast [cast_twoTo]
    rw [two_pow_toNat, zpow_add₀ two_ne_zero, value, value]
    field_simp
  exact hvalue ▸ hnear

theorem div_near (a : Rounded) (hb : 0 < b.value) : (a.div b).Near (a.value / b.value) := by
  have hsignificand : 0 < b.significand := by
    refine Nat.pos_of_ne_zero fun h => ?_
    simp [value, h] at hb
  have hd : 0 < b.significand * twoTo (-(a.exponent - b.exponent)).toNat :=
    Nat.mul_pos hsignificand (Nat.pow_pos Nat.two_pos)
  have hnear := ofFraction_near (a.significand * twoTo (a.exponent - b.exponent).toNat) hd
  have hvalue : ((a.significand * twoTo (a.exponent - b.exponent).toNat : Nat) : ℚ) /
      (b.significand * twoTo (-(a.exponent - b.exponent)).toNat : Nat) = a.value / b.value := by
    push_cast [cast_twoTo]
    rw [two_pow_toNat, zpow_sub₀ two_ne_zero, value, value]
    field_simp
  exact hvalue ▸ hnear

/-- The whole part is that of the number. -/
theorem floor_eq (a : Rounded) : a.floor = ⌊a.value⌋₊ := by
  have hvalue : a.value = ((a.significand * twoTo a.exponent.toNat : Nat) : ℚ) /
      (twoTo (-a.exponent).toNat : Nat) := by
    push_cast [cast_twoTo]
    rw [two_pow_toNat, value]
    field_simp
  rw [hvalue, Nat.floor_div_eq_div]
  rfl

end DeviceFlow.Decimal.Rounded
