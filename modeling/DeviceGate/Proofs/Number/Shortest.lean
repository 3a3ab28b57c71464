import DeviceGate.Proofs.Number.Interval

/-!
The shortest decimal of a finite number rounds back to it.  Seventeen digits always suffice: on that
grid the neighbours of a number are nearer to it than the midpoints are.

* `Finite64.pow_leadingExponent_le`: where the leading digit stands.
* `Finite64.attracts_of_candidate`: a candidate of any length rounds back.
* `Finite64.isSome_candidate_seventeen`: there is one with seventeen digits.
* `Finite64.attracts_shortest`: the shortest decimal rounds back.
-/

namespace DeviceGate.Finite64

variable {x : Finite64}

/-! ### The leading digit -/

lemma value_eq_div (x : Finite64) : x.value = x.numerator / x.denominator := by
  rw [value, numerator, denominator, zpow_eq_div]
  simp only [Nat.pow_eq]
  push_cast
  ring

lemma numerator_pos (hx : x.mantissa ≠ 0) : 0 < x.numerator :=
  Nat.mul_pos (Nat.pos_of_ne_zero hx) (Nat.two_pow_pos _)

/-- A positive natural number has no fewer digits than it is said to. -/
lemma pow_digitCount_le {n : ℕ} (hn : n ≠ 0) : 10 ^ (digitCount n - 1) ≤ n := by
  rcases Nat.eq_zero_or_pos (digitCount n - 1) with hone | hmore
  · rw [hone, pow_zero]
    omega
  · by_contra hlt
    have := (Nat.length_toDigits_le_iff (by norm_num) hmore).2 (not_le.1 hlt)
    rw [digitCount] at hmore this
    omega

/-- The leading digit of a multiple that is at least one shows where that of the quotient stands. -/
lemma pow_le_div_of_digitCount (k : ℕ) {num den : ℕ} {leading : ℤ} (hden : 0 < den)
    (hlarge : den ≤ num * Nat.pow 10 k)
    (hleading : leading = (digitCount (num * Nat.pow 10 k / den) : ℤ) - 1 - k) :
    (10 : ℚ) ^ leading ≤ num / den := by
  rw [Nat.pow_eq] at hlarge hleading
  have hpos : (0 : ℚ) < den := by exact_mod_cast hden
  have hcount : 1 ≤ digitCount (num * 10 ^ k / den) := Nat.length_toDigits_pos
  have hexponent : leading = ((digitCount (num * 10 ^ k / den) - 1 : ℕ) : ℤ) - k := by
    omega
  have hdigits : ((10 ^ (digitCount (num * 10 ^ k / den) - 1) : ℕ) : ℚ) ≤
      (num * 10 ^ k / den : ℕ) :=
    Nat.cast_le.2 (pow_digitCount_le (Nat.div_pos hlarge hden).ne')
  rw [hexponent, zpow_sub₀ (by norm_num), zpow_natCast, zpow_natCast, div_le_iff₀ (by positivity)]
  calc (10 : ℚ) ^ (digitCount (num * 10 ^ k / den) - 1)
      = ((10 ^ (digitCount (num * 10 ^ k / den) - 1) : ℕ) : ℚ) := by push_cast; rfl
    _ ≤ (num * 10 ^ k / den : ℕ) := hdigits
    _ ≤ ((num * 10 ^ k : ℕ) : ℚ) / den := Nat.cast_div_le
    _ = num / den * 10 ^ k := by push_cast; ring

/-- A power of ten with enough zeros takes a number other than zero above one. -/
lemma denominator_le_mul_pow (k : ℕ) (hx : x.mantissa ≠ 0) (hk : (-x.exponent).toNat ≤ 3 * k) :
    x.denominator ≤ x.numerator * Nat.pow 10 k := by
  rw [Nat.pow_eq]
  calc x.denominator = 2 ^ (-x.exponent).toNat := rfl
    _ ≤ 2 ^ (3 * k) := Nat.pow_le_pow_right (by norm_num) hk
    _ = 8 ^ k := by rw [pow_mul]; norm_num
    _ ≤ 10 ^ k := Nat.pow_le_pow_left (by norm_num) k
    _ ≤ x.numerator * 10 ^ k := Nat.le_mul_of_pos_left _ (numerator_pos hx)

/-- The leading digit stands no higher than the number. -/
lemma pow_leadingExponent_le (hx : x.mantissa ≠ 0) : (10 : ℚ) ^ x.leadingExponent ≤ x.value := by
  have hexponent : (-x.exponent).toNat ≤ 3 * 400 := by
    have := x.exponent_ge
    omega
  rw [value_eq_div]
  exact pow_le_div_of_digitCount 400 x.denominator_pos (denominator_le_mul_pow 400 hx hexponent) rfl

/-- The digits of a multiple show where those of the quotient begin. -/
lemma div_lt_pow_of_digitCount {k num den : ℕ} {leading : ℤ} (hden : 0 < den)
    (hleading : leading = (digitCount (num * Nat.pow 10 k / den) : ℤ) - 1 - k) :
    (num / den : ℚ) < 10 ^ (leading + 1) := by
  rw [Nat.pow_eq] at hleading
  have hpos : (0 : ℚ) < den := by exact_mod_cast hden
  have hcount : num * 10 ^ k / den < 10 ^ digitCount (num * 10 ^ k / den) :=
    (Nat.length_toDigits_le_iff (by norm_num) Nat.length_toDigits_pos).1 le_rfl
  have hless : num * 10 ^ k < 10 ^ digitCount (num * 10 ^ k / den) * den :=
    (Nat.div_lt_iff_lt_mul hden).1 hcount
  have hexponent : leading + 1 = (digitCount (num * 10 ^ k / den) : ℤ) - (k : ℕ) := by omega
  rw [hexponent, zpow_sub₀ (by norm_num), zpow_natCast, zpow_natCast,
    div_lt_div_iff₀ hpos (by positivity)]
  exact_mod_cast hless

/-- The leading digit stands no lower than the number. -/
lemma value_lt_pow_leadingExponent (x : Finite64) : x.value < 10 ^ (x.leadingExponent + 1) := by
  rw [value_eq_div]
  exact div_lt_pow_of_digitCount x.denominator_pos rfl

/-! ### Candidates -/

/-- A power of ten that is carried to the next digit keeps its value. -/
lemma carried_value (count digits : ℕ) (scale : ℤ) :
    ((carried count digits scale).1 : ℚ) * 10 ^ (carried count digits scale).2 =
      digits * 10 ^ scale := by
  rw [carried]
  split
  · rename_i hpower
    rw [hpower, Nat.pow_eq, zpow_add₀ (by norm_num), zpow_natCast]
    push_cast
    ring
  · rfl

/-- The nearer of the two natural numbers around a quotient is within one half of it. -/
lemma abs_sub_le_half {num den n : ℕ} (hden : 0 < den)
    (h : 2 * (num % den) ≤ den ∧ n = num / den ∨ den ≤ 2 * (num % den) ∧ n = num / den + 1) :
    |(n : ℚ) - num / den| ≤ 1 / 2 := by
  have hpos : (0 : ℚ) < den := by exact_mod_cast hden
  have hnum : (num : ℚ) / den = (num / den : ℕ) + (num % den : ℕ) / den := by
    have hsplit : (num : ℚ) = den * (num / den : ℕ) + (num % den : ℕ) := by
      exact_mod_cast (Nat.div_add_mod num den).symm
    rw [hsplit]
    field_simp
  have hless : ((num % den : ℕ) : ℚ) / den < 1 := by
    rw [div_lt_one hpos]
    exact_mod_cast Nat.mod_lt num hden
  rcases h with ⟨hr, rfl⟩ | ⟨hr, rfl⟩
  · have hhalf : ((num % den : ℕ) : ℚ) / den ≤ 1 / 2 := by
      rw [div_le_div_iff₀ hpos two_pos]
      exact_mod_cast (by omega : num % den * 2 ≤ 1 * den)
    rw [hnum, abs_sub_le_iff]
    have : (0 : ℚ) ≤ (num % den : ℕ) / den := by positivity
    constructor <;> linarith
  · have hhalf : 1 / 2 ≤ ((num % den : ℕ) : ℚ) / den := by
      rw [div_le_div_iff₀ two_pos hpos]
      exact_mod_cast (by omega : 1 * den ≤ num % den * 2)
    rw [hnum, abs_sub_le_iff]
    push_cast
    constructor <;> linarith

/-- The number, measured in units of a decimal grid. -/
lemma value_div_pow (x : Finite64) (scale : ℤ) :
    x.value / 10 ^ scale =
      ((x.numerator * 10 ^ (-scale).toNat : ℕ) : ℚ) / (x.denominator * 10 ^ scale.toNat : ℕ) := by
  have hden : (0 : ℚ) < x.denominator := by exact_mod_cast x.denominator_pos
  rw [value_eq_div, zpow_eq_div]
  push_cast
  field_simp

/-- Two decimals are tried on the grid of a given length, the nearest one first. -/
lemma candidate_eq (x : Finite64) (tie : DecimalTie) (count : ℕ) :
    ∃ nearer farther : ℕ, ∃ scale : ℤ, scale = x.leadingExponent - count + 1 ∧
      |(nearer : ℚ) - x.value / 10 ^ scale| ≤ 1 / 2 ∧
      x.candidate tie count =
        if x.roundsTo nearer scale then some (carried count nearer scale)
        else if x.roundsTo farther scale then some (carried count farther scale)
        else none := by
  refine ⟨_, _, _, rfl, ?_, rfl⟩
  rw [value_div_pow]
  refine abs_sub_le_half (Nat.mul_pos x.denominator_pos (by positivity)) ?_
  simp only [Nat.pow_eq]
  split
  · rename_i hdown
    refine .inl ⟨?_, rfl⟩
    rcases hdown with hlt | ⟨heq, -, -⟩
    · exact hlt.le
    · exact heq.le
  · rename_i hdown
    refine .inr ⟨?_, rfl⟩
    by_contra hlt
    exact hdown (.inl (not_le.1 hlt))

/-- A candidate rounds back to the number. -/
lemma attracts_of_candidate {tie : DecimalTie} {count : ℕ} {decimal : ℕ × ℤ} (hx : x.mantissa ≠ 0)
    (h : x.candidate tie count = some decimal) : x.Attracts (decimal.1 * 10 ^ decimal.2) := by
  obtain ⟨nearer, farther, scale, -, -, hcandidate⟩ := x.candidate_eq tie count
  rw [hcandidate] at h
  split at h
  · rename_i hnearer
    cases h
    rw [carried_value]
    exact (roundsTo_iff hx _ _).1 hnearer
  · split at h
    · rename_i hfarther
      cases h
      rw [carried_value]
      exact (roundsTo_iff hx _ _).1 hfarther
    · cases h

/-- A candidate is a point of its grid, with no more digits than it may have. -/
lemma exists_carried_of_candidate {tie : DecimalTie} {count : ℕ} {decimal : ℕ × ℤ}
    (h : x.candidate tie count = some decimal) :
    ∃ n ≤ 10 ^ count, decimal = carried count n (x.leadingExponent - count + 1) := by
  obtain ⟨scale, hscale⟩ : ∃ scale, scale = x.leadingExponent - count + 1 := ⟨_, rfl⟩
  have hbelow : x.numerator * 10 ^ (-scale).toNat / (x.denominator * 10 ^ scale.toNat) <
      10 ^ count := by
    have hden : 0 < x.denominator * 10 ^ scale.toNat :=
      Nat.mul_pos x.denominator_pos (by positivity)
    have hvalue : x.value / 10 ^ scale < 10 ^ count := by
      rw [div_lt_iff₀ (by positivity), ← zpow_natCast, ← zpow_add₀ (by norm_num), hscale,
        show (count : ℤ) + (x.leadingExponent - count + 1) = x.leadingExponent + 1 by ring]
      exact x.value_lt_pow_leadingExponent
    rw [value_div_pow, div_lt_iff₀ (by exact_mod_cast hden)] at hvalue
    rw [Nat.div_lt_iff_lt_mul hden]
    exact_mod_cast hvalue
  obtain ⟨nearer, farther, hnearer, hfarther, hcandidate⟩ : ∃ nearer farther : ℕ,
      nearer ≤ 10 ^ count ∧ farther ≤ 10 ^ count ∧
      x.candidate tie count =
        if x.roundsTo nearer scale then some (carried count nearer scale)
        else if x.roundsTo farther scale then some (carried count farther scale)
        else none := by
    rw [hscale] at hbelow ⊢
    refine ⟨_, _, ?_, ?_, rfl⟩
    · simp only [Nat.pow_eq]
      split
      · exact hbelow.le
      · exact hbelow
    · simp only [Nat.pow_eq]
      split
      · rwa [Nat.add_sub_cancel_left]
      · rw [Nat.add_sub_cancel]
        exact hbelow.le
  rw [hcandidate] at h
  rw [← hscale]
  split at h
  · exact ⟨nearer, hnearer, (Option.some.inj h).symm⟩
  · split at h
    · exact ⟨farther, hfarther, (Option.some.inj h).symm⟩
    · cases h

/-- What is carried has a digit less, and stands no lower. -/
lemma carried_bounds {count n : ℕ} (hcount : 0 < count) (hn : n ≤ 10 ^ count) (scale : ℤ) :
    (carried count n scale).1 < 10 ^ count ∧ scale ≤ (carried count n scale).2 := by
  rw [carried, Nat.pow_eq]
  split
  · exact ⟨Nat.one_lt_pow hcount.ne' (by norm_num), by omega⟩
  · exact ⟨by omega, le_rfl⟩

/-! ### Seventeen digits -/

/-- Whatever is nearer to a number than half a unit of its seventeenth digit rounds to it. -/
lemma attracts_of_near {q : ℚ} (h : |q - x.value| ≤ x.value / 10 ^ 16 / 2) :
    x.Attracts q := by
  have hunit : (0 : ℚ) < 2 ^ x.exponent := by positivity
  have hfull : (x.mantissa : ℚ) < 9007199254740992 := by exact_mod_cast x.mantissa_lt
  have hbelow : (x.mantissa : ℚ) / 10 ^ 16 / 2 < x.quarterBelow / 4 := by
    rw [quarterBelow]
    split
    · rename_i hleast
      rw [hleast.1]
      norm_num
    · push_cast
      linarith
  obtain ⟨hhigh, hlow⟩ := abs_sub_le_iff.1 h
  refine attracts_of_lt ?_ ?_
  · calc x.low = x.value - x.quarterBelow / 4 * 2 ^ x.exponent := by rw [low, value]; ring
      _ < x.value - x.mantissa / 10 ^ 16 / 2 * 2 ^ x.exponent := by
          have := mul_lt_mul_of_pos_right hbelow hunit
          linarith
      _ = x.value - x.value / 10 ^ 16 / 2 := by rw [value]; ring
      _ ≤ q := by linarith
  · calc q ≤ x.value + x.value / 10 ^ 16 / 2 := by linarith
      _ = x.value + x.mantissa / 10 ^ 16 / 2 * 2 ^ x.exponent := by rw [value]; ring
      _ < x.value + 2 / 4 * 2 ^ x.exponent := by
          have : (x.mantissa : ℚ) / 10 ^ 16 / 2 < 2 / 4 := by linarith
          have := mul_lt_mul_of_pos_right this hunit
          linarith
      _ = x.high := by rw [high, value]; ring

/-- There is a candidate with seventeen digits. -/
lemma isSome_candidate_seventeen (hx : x.mantissa ≠ 0) (tie : DecimalTie) :
    (x.candidate tie 17).isSome = true := by
  obtain ⟨nearer, farther, scale, hscale, hnear, hcandidate⟩ := x.candidate_eq tie 17
  have hgrid : (0 : ℚ) < 10 ^ scale := by positivity
  have hfine : (10 : ℚ) ^ scale ≤ x.value / 10 ^ 16 := by
    have hsplit : (10 : ℚ) ^ scale = 10 ^ x.leadingExponent / 10 ^ 16 := by
      rw [hscale, show x.leadingExponent - (17 : ℕ) + 1 = x.leadingExponent - (16 : ℕ) by omega,
        zpow_sub₀ (by norm_num), zpow_natCast]
    rw [hsplit]
    exact div_le_div_of_nonneg_right (pow_leadingExponent_le hx) (by positivity)
  have hclose : |(nearer : ℚ) * 10 ^ scale - x.value| ≤ x.value / 10 ^ 16 / 2 := by
    calc |(nearer : ℚ) * 10 ^ scale - x.value|
        = |((nearer : ℚ) - x.value / 10 ^ scale) * 10 ^ scale| := by
          rw [sub_mul, div_mul_cancel₀ _ hgrid.ne']
      _ = |(nearer : ℚ) - x.value / 10 ^ scale| * 10 ^ scale := by rw [abs_mul, abs_of_pos hgrid]
      _ ≤ 1 / 2 * 10 ^ scale := mul_le_mul_of_nonneg_right hnear hgrid.le
      _ ≤ x.value / 10 ^ 16 / 2 := by linarith
  have hrounds := (roundsTo_iff hx nearer scale).2 (attracts_of_near hclose)
  rw [hcandidate, if_pos hrounds]
  rfl

/-! ### The shortest decimal -/

/-- **Round trip.**  The shortest decimal of a number other than zero rounds back to it. -/
theorem attracts_shortest (hx : x.mantissa ≠ 0) (tie : DecimalTie) :
    x.Attracts ((x.shortest tie).1 * 10 ^ (x.shortest tie).2) := by
  rw [shortest]
  rcases hfound : (List.range 17).findSome? fun i => x.candidate tie (i + 1) with _ | decimal
  · rw [List.findSome?_eq_none_iff] at hfound
    have hnone := hfound 16 (by simp)
    have hsome := isSome_candidate_seventeen hx tie
    rw [hnone] at hsome
    cases hsome
  · obtain ⟨i, -, hcandidate⟩ := List.exists_of_findSome?_eq_some hfound
    exact attracts_of_candidate hx hcandidate

/-- The shortest decimal has seventeen digits at most, and stands within reach of the number. -/
lemma shortest_bounds (hx : x.mantissa ≠ 0) (tie : DecimalTie) :
    (x.shortest tie).1 < 10 ^ 17 ∧ x.leadingExponent - 16 ≤ (x.shortest tie).2 := by
  rw [shortest]
  rcases hfound : (List.range 17).findSome? fun i => x.candidate tie (i + 1) with _ | decimal
  · have hnone := List.findSome?_eq_none_iff.1 hfound 16 (by simp)
    have hsome := isSome_candidate_seventeen hx tie
    rw [hnone] at hsome
    cases hsome
  · obtain ⟨i, hi, hcandidate⟩ := List.exists_of_findSome?_eq_some hfound
    obtain ⟨n, hn, rfl⟩ := exists_carried_of_candidate hcandidate
    obtain ⟨hdigits, hscale⟩ := carried_bounds i.succ_pos hn (x.leadingExponent - (i + 1 : ℕ) + 1)
    rw [List.mem_range] at hi
    refine ⟨hdigits.trans_le (Nat.pow_le_pow_right (by norm_num) hi), le_trans ?_ hscale⟩
    push_cast
    omega

/-- The digits of a number other than zero are not all zero. -/
lemma shortest_ne_zero (hx : x.mantissa ≠ 0) (tie : DecimalTie) : (x.shortest tie).1 ≠ 0 := by
  intro hzero
  have hlow := (attracts_shortest hx tie).low_le
  rw [hzero, Nat.cast_zero, zero_mul] at hlow
  have hpos : 0 < x.low := by
    have hm : (1 : ℚ) ≤ x.mantissa := by exact_mod_cast Nat.pos_of_ne_zero hx
    have hbelow : (x.quarterBelow : ℚ) ≤ 2 := by exact_mod_cast x.quarterBelow_le
    have : (0 : ℚ) < (4 * x.mantissa - x.quarterBelow) / 4 := by linarith
    rw [low]
    positivity
  exact absurd hlow (not_le.2 hpos)

end DeviceGate.Finite64
