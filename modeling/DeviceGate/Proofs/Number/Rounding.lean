import DeviceGate.Proofs.Number.Shortest

/-!
The arithmetic of floating-point numbers is correctly rounded: a quotient of natural numbers becomes
the number that attracts it, as long as it is not too large.

* `Binary64.floorLog2Ratio_spec`: the power of two below a quotient.
* `Binary64.roundHalfEven_spec`: the nearest natural number, a half going to the even one.
* `Finite64.attracts_of_nearest`: what is nearest on the grid of a number is attracted by it.
* `Binary64.ofRatio_of_lt`: a quotient below the overflow threshold is correctly rounded.
* `Finite64.value_le_of_attracts`: rounding is monotone.
-/

namespace DeviceGate

namespace Finite64

variable {x y : Finite64} {q q' : ℚ}

/-! ### What is attracted -/

lemma value_nonneg (x : Finite64) : 0 ≤ x.value := by
  rw [value]
  positivity

/-- A number attracts itself. -/
lemma attracts_value (x : Finite64) : x.Attracts x.value := by
  have hunit : (0 : ℚ) < 2 ^ x.exponent := by positivity
  have hbelow : (0 : ℚ) < x.quarterBelow := by
    rw [quarterBelow]
    split <;> norm_num
  refine attracts_of_lt ?_ ?_
  · rw [low, value]
    exact mul_lt_mul_of_pos_right (by linarith) hunit
  · rw [high, value]
    exact mul_lt_mul_of_pos_right (by linarith) hunit

/-- What lies between two that are attracted is attracted. -/
lemma Attracts.between {r : ℚ} (h : x.Attracts q) (h' : x.Attracts r) (hle : q ≤ q')
    (hle' : q' ≤ r) : x.Attracts q' := by
  rw [Attracts] at h h' ⊢
  split
  · rename_i heven
    rw [if_pos heven] at h h'
    exact ⟨h.1.trans hle, hle'.trans h'.2⟩
  · rename_i hodd
    rw [if_neg hodd] at h h'
    exact ⟨h.1.trans_le hle, hle'.trans_lt h'.2⟩

lemma value_eq_of_attracts (hx : x.Attracts q) (hy : y.Attracts q) : x.value = y.value := by
  obtain ⟨hmantissa, hexponent⟩ := eq_of_attracts hx hy
  rw [value, value, hmantissa, hexponent]

/-- Rounding is monotone. -/
theorem value_le_of_attracts (hx : x.Attracts q) (hy : y.Attracts q') (hle : q ≤ q') :
    x.value ≤ y.value := by
  by_contra hlt
  rw [not_le] at hlt
  rcases le_total x.value q' with hbeyond | hwithin
  · -- the second interval reaches over the first number
    have hreach := y.attracts_value.between hy hlt.le hbeyond
    exact hlt.ne (value_eq_of_attracts hreach x.attracts_value)
  · -- the first interval reaches over what the second number attracts
    have hreach := hx.between x.attracts_value hle hwithin
    exact hlt.ne (value_eq_of_attracts hy hreach)

/-- What is nearest to a mantissa on its grid is attracted; a half must go to the even one, and the
least mantissa of its exponent is reached from below on a finer grid. -/
lemma attracts_of_nearest {t : ℚ} (hnear : |(x.mantissa : ℚ) - t| ≤ 1 / 2)
    (heven : |(x.mantissa : ℚ) - t| = 1 / 2 → x.mantissa % 2 = 0)
    (hleast : x.mantissa = 4503599627370496 → -1074 < x.exponent → (x.mantissa : ℚ) - 1 / 4 ≤ t) :
    x.Attracts (t * 2 ^ x.exponent) := by
  have hunit : (0 : ℚ) < 2 ^ x.exponent := by positivity
  obtain ⟨habove, hbelow⟩ := abs_sub_le_iff.1 hnear
  have hlow : (4 * x.mantissa - x.quarterBelow) / 4 ≤ t := by
    rw [quarterBelow]
    split
    · rename_i hcase
      have := hleast hcase.1 hcase.2
      push_cast
      linarith
    · push_cast
      linarith
  have hhigh : t ≤ (4 * x.mantissa + 2) / 4 := by linarith
  rw [Attracts, low, high, mul_le_mul_iff_left₀ hunit, mul_le_mul_iff_left₀ hunit,
    mul_lt_mul_iff_left₀ hunit, mul_lt_mul_iff_left₀ hunit]
  split
  · exact ⟨hlow, hhigh⟩
  · rename_i hodd
    have hstrict : |(x.mantissa : ℚ) - t| < 1 / 2 :=
      lt_of_le_of_ne hnear fun heq => hodd (heven heq)
    obtain ⟨habove, hbelow⟩ := abs_sub_lt_iff.1 hstrict
    refine ⟨?_, by linarith⟩
    rw [quarterBelow]
    split
    · rename_i hcase
      rw [hcase.1] at hodd
      norm_num at hodd
    · push_cast
      linarith

end Finite64

namespace Binary64

open Finite64 (zpow_eq_div)

/-! ### Quotients of natural numbers -/

/-- A quotient against a power of two, in natural numbers. -/
lemma pow_le_div_iff {num den : ℕ} (hden : 0 < den) (k : ℤ) :
    (2 : ℚ) ^ k ≤ num / den ↔ den * 2 ^ k.toNat ≤ num * 2 ^ (-k).toNat := by
  have hpos : (0 : ℚ) < den := by exact_mod_cast hden
  rw [zpow_eq_div, div_le_div_iff₀ (by positivity) hpos, mul_comm ((2 : ℚ) ^ k.toNat)]
  exact_mod_cast Iff.rfl

/-- The power of two below a quotient. -/
lemma floorLog2Ratio_spec {num den : ℕ} (hnum : num ≠ 0) (hden : 0 < den) :
    (2 : ℚ) ^ floorLog2Ratio num den ≤ num / den ∧
      (num / den : ℚ) < 2 ^ (floorLog2Ratio num den + 1) := by
  have hpos : (0 : ℚ) < den := by exact_mod_cast hden
  have hnumlow : ((2 ^ num.log2 : ℕ) : ℚ) ≤ num := Nat.cast_le.2 (Nat.log2_self_le hnum)
  have hnumhigh : (num : ℚ) < (2 ^ (num.log2 + 1) : ℕ) := Nat.cast_lt.2 Nat.lt_log2_self
  have hdenlow : ((2 ^ den.log2 : ℕ) : ℚ) ≤ den := Nat.cast_le.2 (Nat.log2_self_le hden.ne')
  have hdenhigh : (den : ℚ) < (2 ^ (den.log2 + 1) : ℕ) := Nat.cast_lt.2 Nat.lt_log2_self
  push_cast at hnumlow hnumhigh hdenlow hdenhigh
  have habove : (num / den : ℚ) < 2 ^ ((num.log2 : ℤ) - den.log2 + 1) := by
    have hexponent : (num.log2 : ℤ) - den.log2 + 1 = (num.log2 + 1 : ℕ) - (den.log2 : ℕ) := by
      push_cast
      ring
    rw [div_lt_iff₀ hpos, hexponent, zpow_sub₀ two_ne_zero, zpow_natCast, zpow_natCast]
    calc (num : ℚ) < 2 ^ (num.log2 + 1) := hnumhigh
      _ = 2 ^ (num.log2 + 1) / 2 ^ den.log2 * 2 ^ den.log2 := by field_simp
      _ ≤ 2 ^ (num.log2 + 1) / 2 ^ den.log2 * den :=
        mul_le_mul_of_nonneg_left hdenlow (by positivity)
  have hbelow : (2 : ℚ) ^ ((num.log2 : ℤ) - den.log2 - 1) ≤ num / den := by
    have hexponent : (num.log2 : ℤ) - den.log2 - 1 = (num.log2 : ℕ) - (den.log2 + 1 : ℕ) := by
      push_cast
      ring
    rw [le_div_iff₀ hpos, hexponent, zpow_sub₀ two_ne_zero, zpow_natCast, zpow_natCast]
    calc (2 : ℚ) ^ num.log2 / 2 ^ (den.log2 + 1) * den
        ≤ 2 ^ num.log2 / 2 ^ (den.log2 + 1) * 2 ^ (den.log2 + 1) :=
          mul_le_mul_of_nonneg_left hdenhigh.le (by positivity)
      _ = 2 ^ num.log2 := by field_simp
      _ ≤ num := hnumlow
  simp only [floorLog2Ratio, Nat.pow_eq, ← pow_le_div_iff hden]
  split
  · rename_i hreached
    exact ⟨hreached, habove⟩
  · rename_i hmissed
    exact ⟨hbelow, by rw [sub_add_cancel]; exact not_le.1 hmissed⟩

/-- The nearest natural number to a quotient; a half goes to the even one. -/
lemma roundHalfEven_spec (num : ℕ) {den : ℕ} (hden : 0 < den) :
    |(roundHalfEven num den : ℚ) - num / den| ≤ 1 / 2 ∧
      (|(roundHalfEven num den : ℚ) - num / den| = 1 / 2 → roundHalfEven num den % 2 = 0) := by
  have hpos : (0 : ℚ) < den := by exact_mod_cast hden
  have hsplit : (num : ℚ) / den = (num / den : ℕ) + (num % den : ℕ) / den := by
    have hnum : (num : ℚ) = den * (num / den : ℕ) + (num % den : ℕ) := by
      exact_mod_cast (Nat.div_add_mod num den).symm
    rw [hnum]
    field_simp
  rw [roundHalfEven]
  split
  · rename_i hup
    have hle : den ≤ 2 * (num % den) := by omega
    refine ⟨Finite64.abs_sub_le_half hden (.inr ⟨hle, rfl⟩), fun hhalf => ?_⟩
    have hlt := Nat.mod_lt num hden
    rcases hup with hmore | ⟨-, hodd⟩
    · exfalso
      have hmore' : (den : ℚ) < 2 * (num % den : ℕ) := by exact_mod_cast hmore
      have hlt' : ((num % den : ℕ) : ℚ) < den := by exact_mod_cast hlt
      rw [hsplit, Nat.cast_add, Nat.cast_one, add_sub_add_left_eq_sub, abs_of_pos] at hhalf
      · field_simp at hhalf
        linarith
      · rw [sub_pos, div_lt_one hpos]
        exact hlt'
    · omega
  · rename_i hdown
    have hle : 2 * (num % den) ≤ den := by omega
    refine ⟨Finite64.abs_sub_le_half hden (.inl ⟨hle, rfl⟩), fun hhalf => ?_⟩
    have hnonneg : (0 : ℚ) ≤ (num % den : ℕ) / den := by positivity
    rw [hsplit, sub_add_cancel_left, abs_neg, abs_of_nonneg hnonneg] at hhalf
    field_simp at hhalf
    have heq : 2 * (num % den) = den := by
      have : (2 * (num % den : ℕ) : ℚ) = den := by linarith
      exact_mod_cast this
    show num / den % 2 = 0
    omega

/-- Quotients from here on are too large: it lies half a unit above the greatest number. -/
def overflowThreshold : ℕ :=
  (2 ^ 54 - 1) * 2 ^ 970

lemma overflowThreshold_eq : (overflowThreshold : ℚ) = (2 ^ 54 - 1) * 2 ^ (970 : ℤ) := by
  have hpow : ((2 ^ 970 : ℕ) : ℚ) = (2 : ℚ) ^ (970 : ℤ) := by
    rw [Nat.cast_pow, Nat.cast_ofNat]
    rfl
  rw [overflowThreshold, Nat.cast_mul, hpow]
  norm_num

/-- No number attracts what is too large. -/
lemma high_le_overflowThreshold (x : Finite64) : x.high ≤ overflowThreshold := by
  have hunit : (2 : ℚ) ^ x.exponent ≤ 2 ^ (1 + 970 : ℤ) :=
    zpow_le_zpow_right₀ (by norm_num) x.exponent_le
  have hmantissa : (x.mantissa : ℚ) ≤ 9007199254740991 := by
    exact_mod_cast Nat.le_of_lt_succ x.mantissa_lt
  rw [zpow_add₀ two_ne_zero, zpow_one] at hunit
  rw [Finite64.high, overflowThreshold_eq]
  calc (4 * x.mantissa + 2) / 4 * (2 : ℚ) ^ x.exponent
      ≤ (4 * 9007199254740991 + 2) / 4 * (2 * 2 ^ (970 : ℤ)) :=
        mul_le_mul (by linarith) hunit (by positivity) (by norm_num)
    _ = (2 ^ 54 - 1) * 2 ^ (970 : ℤ) := by ring

/-- A decimal that is not too large stands below the power of ten that is. -/
lemma scale_le {number : ℕ} {scale : ℤ} (hnumber : number ≠ 0)
    (h : (number * 10 ^ scale : ℚ) ≤ overflowThreshold) : scale ≤ 308 := by
  have hsmall : overflowThreshold < Nat.pow 10 309 := by decide +kernel
  have hbound : (overflowThreshold : ℚ) < (Nat.pow 10 309 : ℕ) := Nat.cast_lt.2 hsmall
  rw [Nat.pow_eq, Nat.cast_pow, ← zpow_natCast] at hbound
  have hone : (1 : ℚ) ≤ number := by exact_mod_cast Nat.pos_of_ne_zero hnumber
  by_contra hlarge
  have hpow : (10 : ℚ) ^ (309 : ℤ) ≤ 10 ^ scale :=
    zpow_le_zpow_right₀ (by norm_num) (by omega)
  have hscaled := (le_mul_of_one_le_left (by positivity) hone).trans h
  exact absurd ((hpow.trans hscaled).trans_lt hbound) (lt_irrefl _)

/-- No shortest decimal stands higher than the greatest number. -/
lemma shortest_scale_le {x : Finite64} (hx : x.mantissa ≠ 0) (tie : DecimalTie) :
    (x.shortest tie).2 ≤ 308 :=
  scale_le (Finite64.shortest_ne_zero hx tie)
    ((Finite64.attracts_shortest hx tie).le_high.trans (high_le_overflowThreshold x))

/-- A quotient on the grid of an exponent. -/
lemma scaled_eq (num den : ℕ) (e : ℤ) :
    ((num * 2 ^ (-e).toNat : ℕ) : ℚ) / (den * 2 ^ e.toNat : ℕ) = num / den / 2 ^ e := by
  rw [zpow_eq_div]
  push_cast
  field_simp

/-- The number whose mantissa is nearest to a point of its grid attracts that point, also where it
is the first one of the next exponent. -/
lemma exists_attracting (negative : Bool) {m : ℕ} {e : ℤ} {t : ℚ} (hge : -1074 ≤ e) (hle : e ≤ 971)
    (hnear : |(m : ℚ) - t| ≤ 1 / 2) (heven : |(m : ℚ) - t| = 1 / 2 → m % 2 = 0)
    (hleast : e = -1074 ∨ 4503599627370496 ≤ t) (hlt : t < 9007199254740992)
    (hsmall : t * 2 ^ e < overflowThreshold) :
    ∃ y, (if m = 9007199254740992 then ofParts negative 4503599627370496 (e + 1)
        else ofParts negative m e) = .finite y ∧
      y.negative = negative ∧ y.Attracts (t * 2 ^ e) := by
  obtain ⟨habove, hbelow⟩ := abs_sub_le_iff.1 hnear
  by_cases hcarry : m = 9007199254740992
  · -- the greatest exponent has no next one, but there the point would be too large
    have hroom : e + 1 ≤ 971 := by
      by_contra hlast
      obtain rfl : e = 970 + 1 := by omega
      rw [overflowThreshold_eq, zpow_add₀ two_ne_zero, zpow_one, mul_comm _ (2 : ℚ), ← mul_assoc,
        mul_lt_mul_iff_left₀ (by positivity)] at hsmall
      rw [hcarry] at habove
      push_cast at habove
      linarith
    have hunit : t * 2 ^ e = t / 2 * 2 ^ (e + 1) := by
      rw [zpow_add₀ two_ne_zero, zpow_one]
      ring
    rw [if_pos hcarry, ofParts, dif_pos ⟨by norm_num, by omega, hroom, by norm_num⟩, hunit]
    refine ⟨_, rfl, rfl, Finite64.attracts_of_nearest ?_ (fun _ => by norm_num) fun _ _ => ?_⟩
    · rw [hcarry] at habove
      push_cast at habove ⊢
      rw [abs_sub_le_iff]
      constructor <;> linarith
    · rw [hcarry] at habove
      push_cast at habove ⊢
      linarith
  · have hm : m < 9007199254740992 := by
      have hbound : (m : ℚ) < 9007199254740993 := by linarith
      have : m < 9007199254740993 := by exact_mod_cast hbound
      omega
    have hnormal : 4503599627370496 ≤ m ∨ e = -1074 := by
      refine hleast.symm.imp_left fun hfull => ?_
      have hbound : (4503599627370495 : ℚ) < m := by linarith
      have : 4503599627370495 < m := by exact_mod_cast hbound
      omega
    rw [if_neg hcarry, ofParts, dif_pos ⟨hm, hge, hle, hnormal⟩]
    refine ⟨_, rfl, rfl, Finite64.attracts_of_nearest hnear heven fun hfirst hcoarse => ?_⟩
    have hfull := hleast.resolve_left hcoarse.ne'
    push_cast [show m = 4503599627370496 from hfirst]
    linarith

/-- No number is too large. -/
lemma value_lt_overflowThreshold (x : Finite64) : x.value < overflowThreshold := by
  refine lt_of_lt_of_le ?_ (high_le_overflowThreshold x)
  rw [Finite64.value, Finite64.high]
  exact mul_lt_mul_of_pos_right (by linarith) (by positivity)

/-- **Correct rounding.**  A quotient that is not too large becomes the number that attracts it. -/
theorem ofRatio_of_lt (negative : Bool) (num : ℕ) {den : ℕ} (hden : 0 < den)
    (h : (num / den : ℚ) < overflowThreshold) :
    ∃ y, ofRatio negative num den = .finite y ∧ y.negative = negative ∧
      y.Attracts (num / den) := by
  by_cases hnum : num = 0
  · refine ⟨.zero negative, by rw [ofRatio, if_pos hnum], rfl, ?_⟩
    have hzero : (Finite64.zero negative).value = 0 := by simp [Finite64.value, Finite64.zero]
    simpa [hnum, hzero] using (Finite64.zero negative).attracts_value
  obtain ⟨hfloor, hceil⟩ := floorLog2Ratio_spec hnum hden
  have hk : floorLog2Ratio num den ≤ 1023 := by
    by_contra hlarge
    have hpow : (2 : ℚ) ^ (54 + 970 : ℤ) ≤ 2 ^ floorLog2Ratio num den :=
      zpow_le_zpow_right₀ (by norm_num) (by omega)
    have hunit : (0 : ℚ) < 2 ^ (970 : ℤ) := by positivity
    rw [zpow_add₀ two_ne_zero] at hpow
    have hreached : (2 : ℚ) ^ (54 : ℤ) * 2 ^ (970 : ℤ) < (2 ^ 54 - 1) * 2 ^ (970 : ℤ) :=
      ((hpow.trans hfloor).trans_lt h).trans_eq overflowThreshold_eq
    rw [mul_lt_mul_iff_left₀ hunit] at hreached
    norm_num at hreached
  -- the exponent of the grid, and the quotient on it
  obtain ⟨e, he⟩ : ∃ e, e = max (floorLog2Ratio num den - 52) (-1074) := ⟨_, rfl⟩
  obtain ⟨t, ht⟩ : ∃ t : ℚ, t = num / den / 2 ^ e := ⟨_, rfl⟩
  have hunit : (0 : ℚ) < 2 ^ e := by positivity
  have hq : (num / den : ℚ) = t * 2 ^ e := by rw [ht, div_mul_cancel₀ _ hunit.ne']
  have hspec := roundHalfEven_spec (num * 2 ^ (-e).toNat)
    (Nat.mul_pos hden (Nat.two_pow_pos e.toNat))
  rw [scaled_eq, ← ht] at hspec
  have hlt : t < 2 ^ (53 : ℤ) := by
    have hgrid : (2 : ℚ) ^ (floorLog2Ratio num den + 1) ≤ 2 ^ (53 + e) :=
      zpow_le_zpow_right₀ (by norm_num) (by omega)
    rw [zpow_add₀ two_ne_zero 53] at hgrid
    rw [hq] at hceil
    exact lt_of_mul_lt_mul_right (hceil.trans_le hgrid) hunit.le
  have hleast : e = -1074 ∨ 2 ^ (52 : ℤ) ≤ t := by
    rcases max_choice (floorLog2Ratio num den - 52) (-1074) with hfull | hfine
    · have hgrid : (2 : ℚ) ^ (floorLog2Ratio num den) = 2 ^ (52 : ℤ) * 2 ^ e := by
        rw [← zpow_add₀ two_ne_zero]
        congr 1
        omega
      rw [hgrid, hq] at hfloor
      exact .inr (le_of_mul_le_mul_right hfloor hunit)
    · exact .inl (he.trans hfine)
  norm_num at hlt hleast
  obtain ⟨y, hy, hsign, hattracts⟩ := exists_attracting negative (by omega) (by omega) hspec.1
    hspec.2 hleast hlt (hq ▸ h)
  refine ⟨y, ?_, hsign, hq ▸ hattracts⟩
  rw [ofRatio, if_neg hnum, ← hy, he]
  rfl

/-- A natural number that is not too large becomes the number that attracts it. -/
lemma ofNat_of_lt {n : ℕ} (h : (n : ℚ) < overflowThreshold) :
    ∃ y, ofNat n = .finite y ∧ y.negative = false ∧ y.Attracts n := by
  have hratio := ofRatio_of_lt false n one_pos (by rwa [Nat.cast_one, div_one])
  rwa [Nat.cast_one, div_one] at hratio

/-- A product that is not too large is correctly rounded. -/
lemma mul_of_lt {x y : Finite64} (h : x.value * y.value < overflowThreshold) :
    ∃ z, (Binary64.finite x).mul (.finite y) = .finite z ∧
      z.negative = (x.negative != y.negative) ∧ z.Attracts (x.value * y.value) := by
  have hratio : x.value * y.value =
      ((x.numerator * y.numerator : ℕ) : ℚ) / (x.denominator * y.denominator : ℕ) := by
    rw [Finite64.value_eq_div, Finite64.value_eq_div]
    push_cast
    ring
  rw [hratio] at h ⊢
  exact ofRatio_of_lt _ _ (Nat.mul_pos x.denominator_pos y.denominator_pos) h

/-- A quotient that is not too large is correctly rounded. -/
lemma div_of_lt {x y : Finite64} (hy : y.mantissa ≠ 0) (h : x.value / y.value < overflowThreshold) :
    ∃ z, (Binary64.finite x).div (.finite y) = .finite z ∧
      z.negative = (x.negative != y.negative) ∧ z.Attracts (x.value / y.value) := by
  have hratio : x.value / y.value =
      ((x.numerator * y.denominator : ℕ) : ℚ) / (x.denominator * y.numerator : ℕ) := by
    rw [Finite64.value_eq_div, Finite64.value_eq_div]
    push_cast
    field_simp
  rw [hratio] at h ⊢
  simp only [div, Finite64.isZero, hy, decide_false, Bool.false_eq_true, if_false]
  exact ofRatio_of_lt _ _ (Nat.mul_pos x.denominator_pos (Finite64.numerator_pos hy)) h

end Binary64

end DeviceGate
