import DeviceGate.Proofs.Number.Reading

/-!
What becomes of a floating-point number that is written and read again.  The reader rounds the
digits of the text, rounds the power of ten, and rounds their product or quotient; so it always
makes a number of the text, but not always the one that was written.  It does make that one as
long as the digits and the power of ten are small enough to be numbers themselves.

* `Finite64.reread`: the number that is read.
* `Json.realOfParts?_body`: there is always one.
* `Json.exists_realOfParts?_of_small`: when it is rounded once only.
* `Finite64.reread_eq_of_small`: when it is the number that was written.
-/

namespace DeviceGate

open DecimalText (significand power)

/-- The number or the one of the other sign. -/
def Finite64.withSign (negative : Bool) (x : Finite64) : Finite64 :=
  if negative then x.neg else x

namespace Json

variable {negative : Bool}

/-! ### One rounding -/

/-- What is made of the last product or quotient. -/
lemma finish_eq (negative : Bool) (z : Finite64) :
    (match if negative then (Binary64.finite z).neg else .finite z with
      | .finite x => some x
      | _ => none) = some (z.withSign negative) := by
  cases negative <;> rfl

/-- A power of ten within reach multiplies. -/
lemma scaledReal?_mul {v : Binary64} {k : ℕ} (hk : k ≤ 308) {z : Finite64}
    (hz : v.mul (.ofNat (Nat.pow 10 k)) = .finite z) (fuel : ℕ) :
    scaledReal? (fuel + 1) negative v k = some (z.withSign negative) := by
  rw [scaledReal?, if_pos (by simpa using hk), if_pos (by omega), Int.natAbs_natCast, hz]
  exact finish_eq negative z

/-- A negative power of ten within reach divides. -/
lemma scaledReal?_div {v : Binary64} {k : ℕ} (hpos : 0 < k) (hk : k ≤ 308) {z : Finite64}
    (hz : v.div (.ofNat (Nat.pow 10 k)) = .finite z) (fuel : ℕ) :
    scaledReal? (fuel + 1) negative v (-k) = some (z.withSign negative) := by
  rw [scaledReal?, if_pos (by simpa using hk), if_neg (by omega), Int.natAbs_neg,
    Int.natAbs_natCast, hz]
  exact finish_eq negative z

/-! ### There is always a number -/

/-- One. -/
def one64 : Finite64 where
  negative := false
  mantissa := 4503599627370496
  exponent := -52
  mantissa_lt := by decide
  exponent_ge := by decide
  exponent_le := by decide
  normal := .inl le_rfl

lemma value_one64 : one64.value = 1 := by
  rw [Finite64.value, one64]
  norm_num

lemma mantissa_ne_zero_of_one_le {p : Finite64} (h : 1 ≤ p.value) : p.mantissa ≠ 0 := by
  intro hzero
  rw [Finite64.value, hzero] at h
  norm_num at h

/-- A power of ten within reach is not too large. -/
lemma pow_lt_overflowThreshold {k : ℕ} (hk : k ≤ 308) : 10 ^ k < Binary64.overflowThreshold := by
  have hall : ∀ k ≤ 308, Nat.pow 10 k < Binary64.overflowThreshold := by decide +kernel
  exact hall k hk

/-- A power of ten within reach is a number, and one at least. -/
lemma exists_ofNat_pow {k : ℕ} (hk : k ≤ 308) :
    ∃ p : Finite64, Binary64.ofNat (Nat.pow 10 k) = .finite p ∧ p.negative = false ∧
      p.Attracts (10 ^ k) ∧ 1 ≤ p.value := by
  obtain ⟨p, hp, hsign, hattracts⟩ :=
    Binary64.ofNat_of_lt (Nat.cast_lt.2 (pow_lt_overflowThreshold hk))
  rw [Nat.cast_pow, Nat.cast_ofNat] at hattracts
  refine ⟨p, hp, hsign, hattracts, ?_⟩
  rw [← value_one64]
  refine Finite64.value_le_of_attracts one64.attracts_value hattracts ?_
  rw [value_one64]
  exact one_le_pow₀ (by norm_num)

/-- Dividing by a power of ten within reach gives a number. -/
lemma exists_div_pow (v : Finite64) {k : ℕ} (hk : k ≤ 308) :
    ∃ z, (Binary64.finite v).div (.ofNat (Nat.pow 10 k)) = .finite z := by
  obtain ⟨p, hp, -, -, hone⟩ := exists_ofNat_pow hk
  have hless : v.value / p.value < Binary64.overflowThreshold :=
    (div_le_self v.value_nonneg hone).trans_lt (Binary64.value_lt_overflowThreshold v)
  obtain ⟨z, hz, -⟩ := Binary64.div_of_lt (mantissa_ne_zero_of_one_le hone) hless
  exact ⟨z, by rw [hp, hz]⟩

/-- A number that is scaled down stays one. -/
lemma exists_scaledReal?_down (fuel : ℕ) (v : Finite64) {e : ℤ} (he : e < 0)
    (hfuel : -308 * fuel ≤ e) : ∃ z, scaledReal? fuel negative (.finite v) e = some z := by
  induction fuel generalizing v e with
  | zero => omega
  | succ fuel ih =>
      obtain ⟨k, hk⟩ := Int.eq_ofNat_of_zero_le (by omega : 0 ≤ -e)
      obtain rfl : e = -k := by omega
      by_cases hreach : k ≤ 308
      · obtain ⟨z, hz⟩ := exists_div_pow v hreach
        exact ⟨_, scaledReal?_div (by omega) hreach hz fuel⟩
      · obtain ⟨z, hz⟩ := exists_div_pow v le_rfl
        obtain ⟨last, hlast⟩ := ih z (e := -k + 308) (by omega) (by omega)
        rw [scaledReal?, if_neg (by simpa using hreach)]
        split
        · exact ⟨_, finish_eq negative v⟩
        · rw [if_neg (by omega), hz]
          exact ⟨last, hlast⟩

/-- The greatest digits that a text shows in front of a power of ten.  In front of `10 ^ 292` they
are those of the greatest number, whose shortest decimal is the nearest with seventeen digits. -/
def greatestSignificand (k : ℕ) : ℕ :=
  if k = 292 then 17976931348623157
  else min (Nat.pow 10 17) (Binary64.overflowThreshold / Nat.pow 10 k)

lemma greatestSignificand_le (k : ℕ) : greatestSignificand k ≤ Nat.pow 10 17 := by
  rw [greatestSignificand]
  split
  · decide
  · exact min_le_left _ _

/-- The product of two numbers is not too large. -/
def productFits : Binary64 → Binary64 → Bool
  | .finite v, .finite p => v.numerator * p.numerator <
      Binary64.overflowThreshold * (v.denominator * p.denominator)
  | _, _ => false

/-- Not even the greatest digits are too large when they and the power of ten are rounded. -/
lemma productFits_greatest :
    ∀ k ≤ 308, productFits (.ofNat (greatestSignificand k)) (.ofNat (Nat.pow 10 k)) = true := by
  decide +kernel

lemma productFits_iff {v p : Finite64} :
    productFits (.finite v) (.finite p) = true ↔
      v.value * p.value < Binary64.overflowThreshold := by
  have hv : (0 : ℚ) < v.denominator := by exact_mod_cast v.denominator_pos
  have hp : (0 : ℚ) < p.denominator := by exact_mod_cast p.denominator_pos
  rw [productFits, decide_eq_true_iff, Finite64.value_eq_div, Finite64.value_eq_div,
    div_mul_div_comm, div_lt_iff₀ (mul_pos hv hp), ← Nat.cast_lt (α := ℚ)]
  push_cast
  rfl

/-- Digits that are not too great, scaled up, give a number. -/
lemma exists_scaledReal?_up {n k : ℕ} (hk : k ≤ 308) (hn : n ≤ greatestSignificand k) (fuel : ℕ) :
    ∃ z, scaledReal? (fuel + 1) negative (.ofNat n) k = some z := by
  have hgreatest := productFits_greatest k hk
  obtain ⟨p, hp, -⟩ := exists_ofNat_pow hk
  have hsmall : greatestSignificand k < Binary64.overflowThreshold :=
    (greatestSignificand_le k).trans_lt (pow_lt_overflowThreshold (by decide))
  obtain ⟨g, hg, -, hgattracts⟩ := Binary64.ofNat_of_lt (Nat.cast_lt.2 hsmall)
  obtain ⟨v, hv, -, hvattracts⟩ := Binary64.ofNat_of_lt (Nat.cast_lt.2 (hn.trans_lt hsmall))
  rw [hg, hp, productFits_iff] at hgreatest
  have hle : v.value ≤ g.value :=
    Finite64.value_le_of_attracts hvattracts hgattracts (Nat.cast_le.2 hn)
  obtain ⟨z, hz, -⟩ := Binary64.mul_of_lt
    ((mul_le_mul_of_nonneg_right hle p.value_nonneg).trans_lt hgreatest)
  rw [hv]
  exact ⟨_, scaledReal?_mul hk (by rw [hp, hz]) fuel⟩

/-- The greatest number of either sign. -/
def greatest64 (negative : Bool) : Finite64 where
  negative := negative
  mantissa := 9007199254740991
  exponent := 971
  mantissa_lt := by decide
  -- the exponent of zero is the least one
  exponent_ge := (Finite64.zero negative).exponent_le
  exponent_le := le_rfl
  normal := .inl (by decide)

lemma shortest_greatest64 (negative : Bool) :
    (greatest64 negative).shortest .larger = (17976931348623157, 292) := by
  revert negative
  decide +kernel

/-- The next decimal rounds to the greatest number too, but is not the nearest one. -/
lemma attracts_greatest64 (negative : Bool) :
    (greatest64 negative).Attracts ((17976931348623158 : ℕ) * 10 ^ (292 : ℤ)) := by
  refine (Finite64.roundsTo_iff (by simp [greatest64]) _ _).1 ?_
  revert negative
  decide +kernel

/-- What the text of a number other than zero spells. -/
lemma spelled_body {x : Finite64} (hx : x.mantissa ≠ 0) :
    (significand (DecimalLayout.signed.body x) : ℚ) * 10 ^ power (DecimalLayout.signed.body x) =
      (x.shortest .larger).1 * 10 ^ (x.shortest .larger).2 := by
  have hnonzero : x.isZero = false := by simp [Finite64.isZero, hx]
  rw [← DecimalText.spelled_eq_significand, DecimalLayout.body, if_neg (by simp [hnonzero]),
    (DecimalLayout.signed.magnitude_eq x).2]
  rfl

/-- No text shows the digits beyond those of the greatest number. -/
lemma significand_ne {x : Finite64} (hx : x.mantissa ≠ 0)
    (hpower : power (DecimalLayout.signed.body x) = 292) :
    significand (DecimalLayout.signed.body x) ≠ 17976931348623158 := by
  intro hsignificand
  have hspelled := spelled_body hx
  have hattracts := Finite64.attracts_shortest hx .larger
  rw [hpower, hsignificand] at hspelled
  rw [← hspelled] at hattracts
  obtain ⟨hmantissa, hexponent⟩ :=
    Finite64.eq_of_attracts hattracts (attracts_greatest64 x.negative)
  have heq : x = greatest64 x.negative := by
    cases x
    simp_all [greatest64]
  rw [heq, shortest_greatest64] at hspelled
  have hdigits := mul_right_cancel₀ (by positivity) hspelled
  norm_num at hdigits

/-- The digits of a text do not go beyond the greatest ones. -/
lemma significand_le_greatest {x : Finite64} {k : ℕ}
    (hpower : power (DecimalLayout.signed.body x) = k) :
    k ≤ 308 ∧ significand (DecimalLayout.signed.body x) ≤ greatestSignificand k := by
  have hx : x.mantissa ≠ 0 := by
    intro hzero
    have htext : DecimalLayout.signed.body x = ['0', '.', '0'] := by
      simp [DecimalLayout.body, Finite64.isZero, hzero]
    have htenths : power ['0', '.', '0'] = -1 := by decide
    rw [htext, htenths] at hpower
    omega
  have hspelled := spelled_body hx
  have hreach := (Finite64.attracts_shortest hx .larger).le_high.trans
    (Binary64.high_le_overflowThreshold x)
  rw [← hspelled, hpower] at hreach
  have hnonzero : significand (DecimalLayout.signed.body x) ≠ 0 := by
    intro hzero
    have hdigits := Finite64.shortest_ne_zero hx .larger
    rw [hzero, Nat.cast_zero, zero_mul, eq_comm, mul_eq_zero] at hspelled
    rcases hspelled with hnone | hpow
    · exact hdigits (by exact_mod_cast hnone)
    · exact absurd hpow (by positivity)
  have hk : k ≤ 308 := by exact_mod_cast Binary64.scale_le hnonzero hreach
  rw [zpow_natCast] at hreach
  have hdiv : significand (DecimalLayout.signed.body x) ≤
      Binary64.overflowThreshold / Nat.pow 10 k := by
    rw [Nat.pow_eq, Nat.le_div_iff_mul_le (by positivity)]
    exact_mod_cast hreach
  refine ⟨hk, ?_⟩
  rw [greatestSignificand]
  split
  · rename_i hlast
    have hquotient : ∀ j, j = 292 →
        Binary64.overflowThreshold / Nat.pow 10 j = 17976931348623158 := by
      rintro j rfl
      decide +kernel
    rw [hquotient k hlast] at hdiv
    have hpower' : power (DecimalLayout.signed.body x) = 292 := by omega
    exact Nat.le_of_lt_succ (lt_of_le_of_ne hdiv (significand_ne hx hpower'))
  · exact le_min (isNumeral_body x).2.1.le hdiv

/-- The text of a number spells a number. -/
lemma exists_realOfParts?_body (x : Finite64) :
    ∃ y, realOfParts? x.negative (significand (DecimalLayout.signed.body x))
      (power (DecimalLayout.signed.body x)) = some y := by
  obtain ⟨-, hdigits, hpower⟩ := isNumeral_body x
  rcases lt_or_ge (power (DecimalLayout.signed.body x)) 0 with hneg | hpos
  · have hsmall := hdigits.trans (pow_lt_overflowThreshold (by decide))
    obtain ⟨v, hv, -⟩ := Binary64.ofNat_of_lt (Nat.cast_lt.2 hsmall)
    rw [realOfParts?, hv]
    exact exists_scaledReal?_down 5 v hneg (by omega)
  · obtain ⟨k, hk⟩ := Int.eq_ofNat_of_zero_le hpos
    obtain ⟨hreach, hle⟩ := significand_le_greatest hk
    rw [realOfParts?, hk]
    exact exists_scaledReal?_up hreach hle 4

end Json

/-! ### What is read again -/

/-- The number that is read from the text of a number. -/
def Finite64.reread (x : Finite64) : Finite64 :=
  (Json.realOfParts? x.negative (significand (DecimalLayout.signed.body x))
    (power (DecimalLayout.signed.body x))).getD x

namespace Json

lemma realOfParts?_body (x : Finite64) :
    realOfParts? x.negative (significand (DecimalLayout.signed.body x))
      (power (DecimalLayout.signed.body x)) = some x.reread := by
  obtain ⟨y, hy⟩ := exists_realOfParts?_body x
  rw [Finite64.reread, hy]
  rfl

/-- **Written and read.**  The text of a floating-point number is read as one, whatever follows that
does not go on a number. -/
theorem readNumber?_write_eq (x : Finite64) {rest : List Char} (hrest : EndsNumber rest) :
    readNumber? (DecimalLayout.signed.write x ++ rest) = some (.real x.reread, rest) := by
  rw [readNumber?_write x hrest, realOfParts?_body]
  rfl

/-! ### When nothing is lost -/

/-- A point of its own grid is attracted by the number there. -/
lemma value_eq_of_attracts_grid {v : Finite64} {k : ℕ} (h : v.Attracts (k * 2 ^ v.exponent)) :
    v.value = k * 2 ^ v.exponent := by
  have hunit : (0 : ℚ) < 2 ^ v.exponent := by positivity
  have hlow := h.low_le
  have hhigh := h.le_high
  rw [Finite64.low, mul_le_mul_iff_left₀ hunit] at hlow
  rw [Finite64.high, mul_le_mul_iff_left₀ hunit] at hhigh
  have hbelow := v.quarterBelow_le
  -- the mantissa and the point of its grid are integers, and less than one apart
  have hlow' : (4 * v.mantissa - v.quarterBelow : ℤ) ≤ 4 * k := by
    have : (4 * v.mantissa - v.quarterBelow : ℚ) ≤ 4 * k := by linarith
    exact_mod_cast this
  have hhigh' : (4 * k : ℤ) ≤ 4 * v.mantissa + 2 := by
    have : (4 * k : ℚ) ≤ 4 * v.mantissa + 2 := by linarith
    exact_mod_cast this
  have hmantissa : v.mantissa = k := by omega
  rw [Finite64.value, hmantissa]

/-- A number whose grid is coarse has a full mantissa, and what it attracts is great. -/
lemma lt_two_mul_of_attracts {v : Finite64} {q : ℚ} (h : v.Attracts q)
    (hcoarse : -1074 < v.exponent) : 9007199254740991 * 2 ^ v.exponent < 2 * q := by
  have hunit : (0 : ℚ) < 2 ^ v.exponent := by positivity
  have hnormal : 4503599627370496 ≤ v.mantissa := by
    have := v.normal
    omega
  have hquarters : (9007199254740991 : ℚ) < (4 * v.mantissa - v.quarterBelow) / 4 * 2 := by
    have hnormal' : (4503599627370496 : ℚ) ≤ v.mantissa := by exact_mod_cast hnormal
    rw [Finite64.quarterBelow]
    split
    · push_cast
      linarith
    · rename_i hother
      have hnext : 4503599627370497 ≤ v.mantissa := by omega
      have : (4503599627370497 : ℚ) ≤ v.mantissa := by exact_mod_cast hnext
      push_cast
      linarith
  have hlow := h.low_le
  rw [Finite64.low] at hlow
  calc (9007199254740991 : ℚ) * 2 ^ v.exponent
      < (4 * v.mantissa - v.quarterBelow) / 4 * 2 * 2 ^ v.exponent :=
        mul_lt_mul_of_pos_right hquarters hunit
    _ = 2 * ((4 * v.mantissa - v.quarterBelow) / 4 * 2 ^ v.exponent) := by ring
    _ ≤ 2 * q := by linarith

/-- What fits a mantissa, up to a power of two, rounds to itself. -/
lemma value_eq_of_attracts_mul {v : Finite64} {m j : ℕ} (hm : m < 9007199254740992)
    (h : v.Attracts (m * 2 ^ j)) : v.value = m * 2 ^ j := by
  have hfine : v.exponent ≤ j := by
    by_contra hcoarse
    obtain ⟨d, hd⟩ := Int.eq_ofNat_of_zero_le (by omega : 0 ≤ v.exponent - (j + 1))
    have hgreat := lt_two_mul_of_attracts h (by omega)
    have hgrid : (2 : ℚ) ^ v.exponent = 2 * 2 ^ j * 2 ^ d := by
      rw [show v.exponent = 1 + j + d by omega, zpow_add₀ two_ne_zero, zpow_add₀ two_ne_zero,
        zpow_natCast, zpow_natCast, zpow_one]
    have hpow : (1 : ℚ) ≤ 2 ^ d := one_le_pow₀ (by norm_num)
    have hm' : (m : ℚ) ≤ 9007199254740991 := by exact_mod_cast Nat.le_of_lt_succ hm
    have hsmall : 2 * (m * 2 ^ j : ℚ) ≤ 9007199254740991 * 2 ^ v.exponent := by
      calc 2 * (m * 2 ^ j : ℚ) = m * (2 * 2 ^ j) * 1 := by ring
        _ ≤ 9007199254740991 * (2 * 2 ^ j) * 2 ^ d := by gcongr
        _ = 9007199254740991 * 2 ^ v.exponent := by rw [hgrid, mul_assoc]
    exact absurd hgreat hsmall.not_gt
  obtain ⟨d, hd⟩ := Int.eq_ofNat_of_zero_le (by omega : 0 ≤ (j : ℤ) - v.exponent)
  have hgrid : (m * 2 ^ j : ℚ) = (m * 2 ^ d : ℕ) * 2 ^ v.exponent := by
    rw [← zpow_natCast, show (j : ℤ) = d + v.exponent by omega, zpow_add₀ two_ne_zero,
      zpow_natCast]
    push_cast
    ring
  rw [hgrid] at h ⊢
  exact value_eq_of_attracts_grid h

/-- Digits that fit a mantissa are a number. -/
lemma exists_ofNat_eq {n : ℕ} (hn : n < 9007199254740992) :
    ∃ v : Finite64, Binary64.ofNat n = .finite v ∧ v.negative = false ∧ v.value = n := by
  have hten : n < 10 ^ 16 := hn.trans (by norm_num)
  have hsmall := hten.trans (pow_lt_overflowThreshold (by decide))
  obtain ⟨v, hv, hsign, hattracts⟩ := Binary64.ofNat_of_lt (Nat.cast_lt.2 hsmall)
  refine ⟨v, hv, hsign, ?_⟩
  have hexact := value_eq_of_attracts_mul (j := 0) hn (by simpa using hattracts)
  simpa using hexact

/-- So are the powers of ten up to the twenty-second. -/
lemma exists_ofNat_pow_eq {k : ℕ} (hk : k ≤ 22) :
    ∃ p : Finite64, Binary64.ofNat (Nat.pow 10 k) = .finite p ∧ p.negative = false ∧
      p.value = 10 ^ k := by
  have hfive : ∀ k ≤ 22, 5 ^ k < 9007199254740992 := by decide
  have hten : (10 : ℚ) ^ k = (5 ^ k : ℕ) * 2 ^ k := by
    push_cast
    rw [← mul_pow]
    norm_num
  obtain ⟨p, hp, hsign, hattracts, -⟩ := exists_ofNat_pow (by omega : k ≤ 308)
  refine ⟨p, hp, hsign, ?_⟩
  rw [hten] at hattracts ⊢
  exact value_eq_of_attracts_mul (hfive k hk) hattracts

/-- A number made of the decimal that another one spells is that one, but for the sign. -/
lemma withSign_eq {x z : Finite64} (hz : z.negative = false) {q : ℚ} (hx : x.Attracts q)
    (hattracts : z.Attracts q) : z.withSign x.negative = x := by
  obtain ⟨hmantissa, hexponent⟩ := Finite64.eq_of_attracts hx hattracts
  cases x with | mk negative mantissa exponent _ _ _ _
  cases z
  cases negative <;> simp_all [Finite64.withSign, Finite64.neg]

/-- Digits and a power of ten that are numbers are rounded once, and so correctly. -/
lemma exists_realOfParts?_of_small (negative : Bool) {n : ℕ} {e : ℤ} (hn : n < 9007199254740992)
    (he : e.natAbs ≤ 22) :
    ∃ z : Finite64, realOfParts? negative n e = some (z.withSign negative) ∧ z.negative = false ∧
      z.Attracts (n * 10 ^ e) := by
  obtain ⟨v, hv, hvsign, hvvalue⟩ := exists_ofNat_eq hn
  obtain ⟨p, hp, hpsign, hpvalue⟩ := exists_ofNat_pow_eq he
  rw [realOfParts?, hv]
  rcases lt_or_ge e 0 with hneg | hpos
  · obtain ⟨k, hk⟩ := Int.eq_ofNat_of_zero_le (by omega : 0 ≤ -e)
    obtain rfl : e = -k := by omega
    rw [Int.natAbs_neg, Int.natAbs_natCast] at hp hpvalue he
    have hone : 1 ≤ p.value := by
      rw [hpvalue]
      exact one_le_pow₀ (by norm_num)
    have hless : v.value / p.value < Binary64.overflowThreshold :=
      (div_le_self v.value_nonneg hone).trans_lt (Binary64.value_lt_overflowThreshold v)
    obtain ⟨z, hz, hzsign, hattracts⟩ := Binary64.div_of_lt (mantissa_ne_zero_of_one_le hone) hless
    rw [hvvalue, hpvalue] at hattracts
    refine ⟨z, scaledReal?_div (by omega) (by omega) (by rw [hp, hz]) 4,
      by simp [hzsign, hvsign, hpsign], ?_⟩
    rwa [zpow_neg, zpow_natCast, ← div_eq_mul_inv]
  · obtain ⟨k, rfl⟩ := Int.eq_ofNat_of_zero_le hpos
    rw [Int.natAbs_natCast] at hp hpvalue he
    have hless : v.value * p.value < Binary64.overflowThreshold := by
      have hproduct : n * 10 ^ k ≤ 10 ^ 16 * 10 ^ 22 :=
        Nat.mul_le_mul (hn.le.trans (by norm_num)) (Nat.pow_le_pow_right (by norm_num) he)
      rw [← pow_add] at hproduct
      rw [hvvalue, hpvalue]
      exact_mod_cast hproduct.trans_lt (pow_lt_overflowThreshold (by norm_num))
    obtain ⟨z, hz, hzsign, hattracts⟩ := Binary64.mul_of_lt hless
    rw [hvvalue, hpvalue] at hattracts
    refine ⟨z, scaledReal?_mul (by omega) (by rw [hp, hz]) 4, by simp [hzsign, hvsign, hpsign], ?_⟩
    rwa [zpow_natCast]

end Json

namespace Finite64

open Json

lemma reread_zero (negative : Bool) : (zero negative).reread = zero negative := by
  revert negative
  decide +kernel

lemma eq_zero_of_mantissa {x : Finite64} (hx : x.mantissa = 0) : x = zero x.negative := by
  have hexponent := DecimalLayout.exponent_of_mantissa_eq_zero hx
  cases x
  simp_all [zero]

/-- **Nothing is lost.**  A number whose digits fit a mantissa, and whose power of ten is a number,
is read as it was written. -/
theorem reread_eq_of_small {x : Finite64}
    (hdigits : significand (DecimalLayout.signed.body x) < 9007199254740992)
    (hpower : (power (DecimalLayout.signed.body x)).natAbs ≤ 22) : x.reread = x := by
  by_cases hx : x.mantissa = 0
  · rw [eq_zero_of_mantissa hx]
    exact reread_zero x.negative
  have hattracts := attracts_shortest hx .larger
  rw [← spelled_body hx] at hattracts
  have hread := realOfParts?_body x
  obtain ⟨z, hz, hsign, hzattracts⟩ :=
    exists_realOfParts?_of_small x.negative hdigits hpower
  rw [hz, withSign_eq hsign hattracts hzattracts] at hread
  exact (Option.some.inj hread).symm

/-- The greatest odd number below `2 ^ 53` is written with seventeen digits, and lost. -/
example :
    let x : Finite64 := ⟨false, 9007199254740991, 0, by decide, by decide, by decide, by decide⟩
    DecimalLayout.signed.write x = "9007199254740991.0".toList ∧ x.reread ≠ x := by
  decide +kernel

end Finite64

end DeviceGate
