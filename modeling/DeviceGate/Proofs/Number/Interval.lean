import DeviceGate.Number.Shortest
import Mathlib.Algebra.Order.Field.Power
import Mathlib.Tactic

/-!
The rational numbers that round to a finite number.  They lie between the midpoints to its two
neighbours, and the midpoints belong to them exactly when the mantissa is even; so the intervals of
different absolute values have nothing in common.

* `Finite64.value`: the absolute value; `Finite64.low`, `Finite64.high`: the midpoints.
* `Finite64.Attracts`: a rational number rounds to the absolute value.
* `Finite64.roundsTo_iff`: the decision on decimals is this relation.
* `Finite64.eq_of_attracts`: no rational number rounds to two absolute values.
-/

namespace DeviceGate.Finite64

/-- The absolute value. -/
def value (x : Finite64) : ℚ :=
  x.mantissa * 2 ^ x.exponent

/-- The midpoint to the neighbour below. -/
def low (x : Finite64) : ℚ :=
  (4 * x.mantissa - x.quarterBelow) / 4 * 2 ^ x.exponent

/-- The midpoint to the neighbour above. -/
def high (x : Finite64) : ℚ :=
  (4 * x.mantissa + 2) / 4 * 2 ^ x.exponent

/-- The rational number rounds to the absolute value; a midpoint goes to an even mantissa. -/
def Attracts (x : Finite64) (q : ℚ) : Prop :=
  if x.mantissa % 2 = 0 then x.low ≤ q ∧ q ≤ x.high else x.low < q ∧ q < x.high

lemma Attracts.low_le {x : Finite64} {q : ℚ} (h : x.Attracts q) : x.low ≤ q := by
  rw [Attracts] at h
  split at h
  · exact h.1
  · exact h.1.le

lemma Attracts.le_high {x : Finite64} {q : ℚ} (h : x.Attracts q) : q ≤ x.high := by
  rw [Attracts] at h
  split at h
  · exact h.2
  · exact h.2.le

/-- Whatever lies strictly between the midpoints is attracted. -/
lemma attracts_of_lt {x : Finite64} {q : ℚ} (hlow : x.low < q) (hhigh : q < x.high) :
    x.Attracts q := by
  rw [Attracts]
  split
  · exact ⟨hlow.le, hhigh.le⟩
  · exact ⟨hlow, hhigh⟩

/-! ### The decision on decimals -/

/-- A power is a quotient of powers with natural exponents, one of which is zero. -/
lemma zpow_eq_div (b : ℚ) (z : ℤ) : b ^ z = b ^ z.toNat / b ^ (-z).toNat := by
  rcases le_total 0 z with hz | hz
  · have hneg : (-z).toNat = 0 := by omega
    rw [hneg, pow_zero, div_one, ← zpow_natCast, Int.toNat_of_nonneg hz]
  · have hpos : z.toNat = 0 := by omega
    rw [hpos, pow_zero, one_div, ← zpow_natCast, Int.toNat_of_nonneg (by omega), ← zpow_neg,
      neg_neg]

section Scaled

variable (x : Finite64) (scale : ℤ)

/-- What the decision multiplies with to stay in the natural numbers. -/
def scaleFactor : ℚ :=
  4 * 2 ^ (-x.exponent).toNat * 10 ^ (-scale).toNat

lemma scaleFactor_pos : 0 < x.scaleFactor scale := by
  rw [scaleFactor]
  positivity

lemma quarters_mul_scaleFactor (quarters : ℕ) :
    (quarters : ℚ) / 4 * 2 ^ x.exponent * x.scaleFactor scale =
      (quarters * (2 ^ x.exponent.toNat * 10 ^ (-scale).toNat) : ℕ) := by
  rw [zpow_eq_div 2, scaleFactor]
  push_cast
  field_simp

lemma decimal_mul_scaleFactor (digits : ℕ) :
    (digits : ℚ) * 10 ^ scale * x.scaleFactor scale =
      (4 * digits * 10 ^ scale.toNat * x.denominator : ℕ) := by
  rw [zpow_eq_div 10, scaleFactor, denominator]
  simp only [Nat.pow_eq]
  push_cast
  field_simp

lemma quarters_le_decimal_iff (quarters digits : ℕ) :
    quarters * (2 ^ x.exponent.toNat * 10 ^ (-scale).toNat) ≤
        4 * digits * 10 ^ scale.toNat * x.denominator ↔
      (quarters : ℚ) / 4 * 2 ^ x.exponent ≤ digits * 10 ^ scale := by
  rw [← mul_le_mul_iff_left₀ (x.scaleFactor_pos scale), quarters_mul_scaleFactor,
    decimal_mul_scaleFactor, Nat.cast_le]

lemma decimal_le_quarters_iff (quarters digits : ℕ) :
    4 * digits * 10 ^ scale.toNat * x.denominator ≤
        quarters * (2 ^ x.exponent.toNat * 10 ^ (-scale).toNat) ↔
      (digits : ℚ) * 10 ^ scale ≤ (quarters : ℚ) / 4 * 2 ^ x.exponent := by
  rw [← mul_le_mul_iff_left₀ (x.scaleFactor_pos scale), quarters_mul_scaleFactor,
    decimal_mul_scaleFactor, Nat.cast_le]

end Scaled

lemma quarterBelow_le (x : Finite64) : x.quarterBelow ≤ 2 := by
  rw [quarterBelow]
  split <;> omega

/-- **The decision on decimals.**  A decimal is said to round to a number other than zero exactly
when its value does. -/
theorem roundsTo_iff {x : Finite64} (hx : x.mantissa ≠ 0) (digits : ℕ) (scale : ℤ) :
    x.roundsTo digits scale = true ↔ x.Attracts (digits * 10 ^ scale) := by
  have hbelow : x.quarterBelow ≤ 4 * x.mantissa := by
    have := x.quarterBelow_le
    omega
  have hlow : x.low = ((4 * x.mantissa - x.quarterBelow : ℕ) : ℚ) / 4 * 2 ^ x.exponent := by
    rw [low, Nat.cast_sub hbelow]
    push_cast
    rfl
  have hhigh : x.high = ((4 * x.mantissa + 2 : ℕ) : ℚ) / 4 * 2 ^ x.exponent := by
    rw [high]
    push_cast
    rfl
  rw [roundsTo, Attracts]
  simp only [Nat.pow_eq, hlow, hhigh]
  split
  · rw [Bool.and_eq_true, decide_eq_true_iff, decide_eq_true_iff, quarters_le_decimal_iff,
      decimal_le_quarters_iff]
  · rw [Bool.and_eq_true, decide_eq_true_iff, decide_eq_true_iff, ← not_le, ← not_le,
      quarters_le_decimal_iff, decimal_le_quarters_iff, not_le, not_le]

/-! ### Two numbers do not attract the same -/

section Separation

variable {x y : Finite64} {q : ℚ}

/-- The midpoint below, counted on the finer grid of another number. -/
lemma low_eq_mul {k : ℕ} (hk : y.exponent = x.exponent + k) :
    y.low =
      ((4 * y.mantissa - y.quarterBelow : ℤ) * 2 ^ k : ℤ) * ((2 : ℚ) ^ x.exponent / 4) := by
  rw [low, hk, zpow_add₀ two_ne_zero, zpow_natCast]
  push_cast
  ring

lemma high_eq_mul : x.high = (4 * x.mantissa + 2 : ℤ) * ((2 : ℚ) ^ x.exponent / 4) := by
  rw [high]
  push_cast
  ring

lemma low_le_high_iff {k : ℕ} (hk : y.exponent = x.exponent + k) :
    y.low ≤ x.high ↔ (4 * y.mantissa - y.quarterBelow : ℤ) * 2 ^ k ≤ 4 * x.mantissa + 2 := by
  have hunit : (0 : ℚ) < 2 ^ x.exponent / 4 := by positivity
  rw [low_eq_mul hk, high_eq_mul, mul_le_mul_iff_left₀ hunit, Int.cast_le]

lemma low_lt_high_iff {k : ℕ} (hk : y.exponent = x.exponent + k) :
    y.low < x.high ↔ (4 * y.mantissa - y.quarterBelow : ℤ) * 2 ^ k < 4 * x.mantissa + 2 := by
  have hunit : (0 : ℚ) < 2 ^ x.exponent / 4 := by positivity
  rw [low_eq_mul hk, high_eq_mul, mul_lt_mul_iff_left₀ hunit, Int.cast_lt]

/-- Numbers that attract the same are not separated by their midpoints. -/
lemma low_le_high_of_attracts (hx : x.Attracts q) (hy : y.Attracts q) : y.low ≤ x.high :=
  hy.low_le.trans hx.le_high

/-- The midpoints cannot even meet, as long as one mantissa is odd. -/
lemma low_lt_high_of_attracts (hx : x.Attracts q) (hy : y.Attracts q)
    (hodd : x.mantissa % 2 = 1 ∨ y.mantissa % 2 = 1) : y.low < x.high := by
  rcases hodd with hodd | hodd
  · have hlt : q < x.high := by
      rw [Attracts, if_neg (by omega)] at hx
      exact hx.2
    exact hy.low_le.trans_lt hlt
  · have hlt : y.low < q := by
      rw [Attracts, if_neg (by omega)] at hy
      exact hy.1
    exact hlt.trans_le hx.le_high

/-- Of two numbers with one exponent, the smaller mantissa does not reach the greater one. -/
lemma not_attracts_of_mantissa_lt (he : y.exponent = x.exponent) (hm : x.mantissa < y.mantissa)
    (hx : x.Attracts q) : ¬ y.Attracts q := by
  intro hy
  have hk : y.exponent = x.exponent + (0 : ℕ) := by omega
  -- the gap below is not halved: a smaller mantissa would not be normal
  have hbelow : y.quarterBelow = 2 := by
    have := x.normal
    rw [quarterBelow, if_neg (by omega)]
  have hle := (low_le_high_iff hk).1 (low_le_high_of_attracts hx hy)
  rw [hbelow, pow_zero, mul_one] at hle
  -- the two are neighbours, so one mantissa is odd
  have hlt := (low_lt_high_iff hk).1 (low_lt_high_of_attracts hx hy (by omega))
  rw [hbelow, pow_zero, mul_one] at hlt
  omega

/-- Of two numbers with different exponents, the one with the smaller exponent does not reach the
other. -/
lemma not_attracts_of_exponent_lt (he : x.exponent < y.exponent) (hx : x.Attracts q) :
    ¬ y.Attracts q := by
  intro hy
  obtain ⟨k, hk⟩ := Int.eq_ofNat_of_zero_le (by omega : 0 ≤ y.exponent - x.exponent)
  have hk' : y.exponent = x.exponent + k := by omega
  have hnormal : 4503599627370496 ≤ y.mantissa := by
    have := y.normal
    have := x.exponent_ge
    omega
  have hfull := x.mantissa_lt
  have hpow : (2 : ℤ) ≤ 2 ^ k := by
    calc (2 : ℤ) = 2 ^ 1 := (pow_one 2).symm
      _ ≤ 2 ^ k := pow_le_pow_right₀ (by norm_num) (by omega)
  have hbelow : y.quarterBelow = if y.mantissa = 4503599627370496 then 1 else 2 := by
    have := x.exponent_ge
    rw [quarterBelow]
    congr 1
    rw [eq_iff_iff, and_iff_left_iff_imp]
    omega
  have hscaled : (4 * y.mantissa - y.quarterBelow : ℤ) * 2 ≤
      (4 * y.mantissa - y.quarterBelow : ℤ) * 2 ^ k :=
    mul_le_mul_of_nonneg_left hpow (by have := y.quarterBelow_le; omega)
  have hle := (low_le_high_iff hk').1 (low_le_high_of_attracts hx hy)
  -- the greatest mantissa below a binade is odd
  have hodd : x.mantissa % 2 = 1 := by
    split at hbelow <;> omega
  have hlt := (low_lt_high_iff hk').1 (low_lt_high_of_attracts hx hy (.inl hodd))
  split at hbelow <;> omega

end Separation

/-- **Separation.**  No rational number rounds to two absolute values. -/
theorem eq_of_attracts {x y : Finite64} {q : ℚ} (hx : x.Attracts q) (hy : y.Attracts q) :
    x.mantissa = y.mantissa ∧ x.exponent = y.exponent := by
  rcases lt_trichotomy x.exponent y.exponent with he | he | he
  · exact absurd hy (not_attracts_of_exponent_lt he hx)
  · rcases lt_trichotomy x.mantissa y.mantissa with hm | hm | hm
    · exact absurd hy (not_attracts_of_mantissa_lt he.symm hm hx)
    · exact ⟨hm, he⟩
    · exact absurd hx (not_attracts_of_mantissa_lt he hm hy)
  · exact absurd hx (not_attracts_of_exponent_lt he hy)

end DeviceGate.Finite64
