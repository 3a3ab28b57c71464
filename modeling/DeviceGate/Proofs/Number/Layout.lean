import DeviceGate.Number.Layout
import DeviceGate.Proofs.Number.Shortest
import Mathlib.Data.List.TakeWhile

/-!
What the text of a floating-point number tells about the number: everything.  Wherever a layout puts
the point and the exponent, the text spells the value of the shortest decimal, which rounds back to
one number only.

* `DecimalText.spelled`: the rational number that a text of digits, point and exponent spells.
* `DecimalLayout.magnitude_eq`: the form of a text, which spells the shortest decimal.
* `DecimalLayout.write_injective`: different numbers have different texts.
* `DecimalLayout.isNumberChar_of_mem_write`, `DecimalLayout.exists_mark_mem_write`: the characters
  of a text, among which there is a point or an exponent mark.
-/

namespace DeviceGate

namespace DecimalText

/-! ### What a text spells -/

/-- The integer that an exponent spells. -/
def exponentOf : List Char → ℤ
  | '-' :: digits => -(Nat.ofDigitChars 10 digits 0 : ℤ)
  | '+' :: digits => Nat.ofDigitChars 10 digits 0
  | digits => Nat.ofDigitChars 10 digits 0

/-- The rational number that digits with a point among them spell. -/
def pointValue (text : List Char) : ℚ :=
  let whole := text.takeWhile (· ≠ '.')
  let fraction := (text.dropWhile (· ≠ '.')).tail
  Nat.ofDigitChars 10 (whole ++ fraction) 0 / 10 ^ fraction.length

/-- The rational number that a text of digits, point and exponent spells. -/
def spelled (text : List Char) : ℚ :=
  pointValue (text.takeWhile (· ≠ 'e')) * 10 ^ exponentOf (text.dropWhile (· ≠ 'e')).tail

/-- A text up to a mark that it does not hold before. -/
lemma takeWhile_ne_append {text rest : List Char} {mark : Char} (h : mark ∉ text) :
    (text ++ mark :: rest).takeWhile (· ≠ mark) = text := by
  rw [List.takeWhile_append_of_pos (by simpa using fun c hc => ne_of_mem_of_not_mem hc h)]
  simp

lemma dropWhile_ne_append {text rest : List Char} {mark : Char} (h : mark ∉ text) :
    (text ++ mark :: rest).dropWhile (· ≠ mark) = mark :: rest := by
  rw [List.dropWhile_append_of_pos (by simpa using fun c hc => ne_of_mem_of_not_mem hc h)]
  simp

lemma takeWhile_ne_self {text : List Char} {mark : Char} (h : mark ∉ text) :
    text.takeWhile (· ≠ mark) = text := by
  rw [List.takeWhile_eq_self_iff]
  simpa using fun c hc => ne_of_mem_of_not_mem hc h

lemma dropWhile_ne_self {text : List Char} {mark : Char} (h : mark ∉ text) :
    text.dropWhile (· ≠ mark) = [] := by
  rw [List.dropWhile_eq_nil_iff]
  simpa using fun c hc => ne_of_mem_of_not_mem hc h

lemma spelled_append {text exponent : List Char} (h : 'e' ∉ text) :
    spelled (text ++ 'e' :: exponent) = pointValue text * 10 ^ exponentOf exponent := by
  rw [spelled, takeWhile_ne_append h, dropWhile_ne_append h, List.tail_cons]

lemma spelled_of_not_mem {text : List Char} (h : 'e' ∉ text) : spelled text = pointValue text := by
  rw [spelled, takeWhile_ne_self h, dropWhile_ne_self h]
  simp [exponentOf]

lemma pointValue_append {whole fraction : List Char} (h : '.' ∉ whole) :
    pointValue (whole ++ '.' :: fraction) =
      Nat.ofDigitChars 10 (whole ++ fraction) 0 / 10 ^ fraction.length := by
  rw [pointValue, takeWhile_ne_append h, dropWhile_ne_append h, List.tail_cons]

lemma pointValue_of_not_mem {text : List Char} (h : '.' ∉ text) :
    pointValue text = Nat.ofDigitChars 10 text 0 := by
  rw [pointValue, takeWhile_ne_self h, dropWhile_ne_self h]
  simp

/-! ### Digits -/

/-- A text of digits, at least one. -/
def IsDigits (text : List Char) : Prop :=
  text ≠ [] ∧ ∀ c ∈ text, c.isDigit = true

lemma isDigits_zero : IsDigits ['0'] := by
  refine ⟨List.cons_ne_nil _ _, fun c hc => ?_⟩
  rw [List.mem_singleton.1 hc]
  rfl

lemma isDigits_toDigits (n : ℕ) : IsDigits (Nat.toDigits 10 n) :=
  ⟨Nat.toDigits_ne_nil, fun _ hc => Nat.isDigit_of_mem_toDigits (by norm_num) le_rfl hc⟩

lemma IsDigits.not_mem {text : List Char} {mark : Char} (h : IsDigits text)
    (hmark : mark.isDigit = false) : mark ∉ text := by
  intro hmem
  rw [h.2 mark hmem] at hmark
  cases hmark

/-- Leading zeros change nothing. -/
lemma IsDigits.zeros_append {text : List Char} (h : IsDigits text) (zeros : ℕ) :
    IsDigits (List.replicate zeros '0' ++ text) := by
  refine ⟨by simp [h.1], fun c hc => ?_⟩
  rcases List.mem_append.1 hc with hc | hc
  · rw [List.eq_of_mem_replicate hc]
    decide
  · exact h.2 c hc

lemma IsDigits.append_zeros {text : List Char} (h : IsDigits text) (zeros : ℕ) :
    IsDigits (text ++ List.replicate zeros '0') := by
  refine ⟨by simp [h.1], fun c hc => ?_⟩
  rcases List.mem_append.1 hc with hc | hc
  · exact h.2 c hc
  · rw [List.eq_of_mem_replicate hc]
    decide

/-- Without a sign, an exponent is what its digits say. -/
lemma exponentOf_digits {text : List Char} (h : IsDigits text) :
    exponentOf text = Nat.ofDigitChars 10 text 0 := by
  unfold exponentOf
  split
  · exact absurd (h.2 '-' List.mem_cons_self) (by decide)
  · exact absurd (h.2 '+' List.mem_cons_self) (by decide)
  · rfl

end DecimalText

open DecimalText

namespace DecimalLayout

/-! ### The two layouts -/

/-- The positional layout puts one point between digits, and moves no digit against it. -/
lemma positional_eq {digits : List Char} (h : IsDigits digits) (leading : ℤ) :
    ∃ whole fraction, IsDigits whole ∧ IsDigits fraction ∧
      positional digits leading = whole ++ '.' :: fraction ∧
      (Nat.ofDigitChars 10 (whole ++ fraction) 0 : ℚ) / 10 ^ fraction.length =
        Nat.ofDigitChars 10 digits 0 * 10 ^ (leading + 1 - digits.length) := by
  rw [positional]
  by_cases hneg : leading < 0
  · obtain ⟨zeros, hzeros⟩ := Int.eq_ofNat_of_zero_le (by omega : 0 ≤ -leading - 1)
    have hexponent : leading + 1 - digits.length = -((zeros + digits.length : ℕ) : ℤ) := by omega
    refine ⟨['0'], List.replicate zeros '0' ++ digits, isDigits_zero, h.zeros_append zeros, ?_, ?_⟩
    · rw [if_pos hneg, hzeros]
      simp
    · rw [hexponent, zpow_neg, zpow_natCast, div_eq_mul_inv]
      simp [Nat.ofDigitChars_append, Nat.ofDigitChars_cons]
  · by_cases hshort : digits.length ≤ leading.toNat + 1
    · obtain ⟨zeros, hzeros⟩ := Nat.exists_eq_add_of_le hshort
      have hexponent : leading + 1 - digits.length = (zeros : ℤ) := by omega
      refine
        ⟨digits ++ List.replicate zeros '0', ['0'], h.append_zeros zeros, isDigits_zero, ?_, ?_⟩
      · simp [hneg, hzeros]
      · rw [hexponent, zpow_natCast]
        simp only [Nat.ofDigitChars_append, Nat.ofDigitChars_replicate_zero,
          Nat.ofDigitChars_cons, Nat.ofDigitChars_nil]
        push_cast
        simp
        ring
    · have hexponent : leading + 1 - digits.length =
          -((digits.length - (leading.toNat + 1) : ℕ) : ℤ) := by omega
      refine ⟨digits.take (leading.toNat + 1), digits.drop (leading.toNat + 1), ?_, ?_, ?_, ?_⟩
      · exact ⟨by simp [h.1], fun c hc => h.2 c (List.mem_of_mem_take hc)⟩
      · exact ⟨by simpa using hshort, fun c hc => h.2 c (List.mem_of_mem_drop hc)⟩
      · simp [hneg, hshort]
      · rw [List.take_append_drop, List.length_drop, hexponent, zpow_neg, zpow_natCast,
          div_eq_mul_inv]

/-- The mantissa of the scientific layout. -/
def mantissaOf : List Char → List Char
  | [] => []
  | [d] => [d]
  | d :: rest => d :: '.' :: rest

/-- The exponent of the scientific layout. -/
def exponentText (layout : DecimalLayout) (leading : ℤ) : List Char :=
  (if leading < 0 then ['-'] else if layout.plusSign then ['+'] else []) ++
    padded layout.exponentDigits leading.natAbs

lemma scientific_eq (layout : DecimalLayout) (digits : List Char) (leading : ℤ) :
    layout.scientific digits leading = mantissaOf digits ++ 'e' :: layout.exponentText leading := by
  rcases digits with _ | ⟨d, _ | ⟨d', rest⟩⟩
  · simp [scientific, mantissaOf, exponentText]
  · simp [scientific, mantissaOf, exponentText]
  · simp [scientific, mantissaOf, exponentText]

/-- The point of a mantissa stands behind its first digit. -/
lemma pointValue_mantissaOf {digits : List Char} (h : IsDigits digits) :
    pointValue (mantissaOf digits) =
      Nat.ofDigitChars 10 digits 0 * 10 ^ (1 - digits.length : ℤ) := by
  have hpoint : '.' ∉ digits := h.not_mem (by decide)
  rcases digits with _ | ⟨d, _ | ⟨d', rest⟩⟩
  · exact absurd rfl h.1
  · rw [mantissaOf, pointValue_of_not_mem hpoint]
    simp
  · have hexponent : (1 - (d :: d' :: rest).length : ℤ) = -((d' :: rest).length : ℤ) := by
      simp
    have hsplit : mantissaOf (d :: d' :: rest) = [d] ++ '.' :: d' :: rest := rfl
    have hfirst : '.' ∉ [d] := fun hmem => hpoint (List.mem_cons.2 (.inl (by simpa using hmem)))
    rw [hsplit, pointValue_append hfirst, hexponent, zpow_neg, zpow_natCast, div_eq_mul_inv]
    rfl

lemma mem_mantissaOf {digits : List Char} {c : Char} (h : c ∈ mantissaOf digits) :
    c ∈ digits ∨ c = '.' := by
  rcases digits with _ | ⟨d, _ | ⟨d', rest⟩⟩
  · exact .inl h
  · exact .inl h
  · have hsplit : mantissaOf (d :: d' :: rest) = d :: '.' :: d' :: rest := rfl
    rw [hsplit, List.mem_cons, List.mem_cons] at h
    rcases h with rfl | rfl | h
    · exact .inl List.mem_cons_self
    · exact .inr rfl
    · exact .inl (List.mem_cons_of_mem _ h)

lemma isDigits_padded (width n : ℕ) : IsDigits (padded width n) :=
  (isDigits_toDigits n).zeros_append _

lemma ofDigitChars_padded (width n : ℕ) : Nat.ofDigitChars 10 (padded width n) 0 = n := by
  simp [padded, Nat.ofDigitChars_append]

/-- The exponent spells the exponent of the leading digit. -/
lemma exponentOf_exponentText (layout : DecimalLayout) (leading : ℤ) :
    exponentOf (layout.exponentText leading) = leading := by
  have hvalue := ofDigitChars_padded layout.exponentDigits leading.natAbs
  rw [exponentText]
  by_cases hneg : leading < 0
  · simp only [hneg, if_true, List.singleton_append, exponentOf, hvalue]
    omega
  · by_cases hplus : layout.plusSign = true
    · simp only [hneg, hplus, if_false, if_true, List.singleton_append, exponentOf, hvalue]
      omega
    · have hdigits := isDigits_padded layout.exponentDigits leading.natAbs
      rw [if_neg hneg, if_neg hplus, List.nil_append, exponentOf_digits hdigits, hvalue]
      omega

/-! ### The whole text -/

/-- The text of the absolute value. -/
def body (layout : DecimalLayout) (x : Finite64) : List Char :=
  if x.isZero then ['0', '.', '0'] else layout.magnitude x

lemma write_eq (layout : DecimalLayout) (x : Finite64) :
    layout.write x = (if x.negative then ['-'] else []) ++ layout.body x :=
  rfl

/-- **What a layout spells.**  The text of a number other than zero is laid out in one of two ways,
and either way it spells the shortest decimal. -/
lemma magnitude_eq (layout : DecimalLayout) (x : Finite64) :
    ((∃ whole fraction, IsDigits whole ∧ IsDigits fraction ∧
        layout.magnitude x = whole ++ '.' :: fraction) ∨
      (∃ digits leading, IsDigits digits ∧
        layout.magnitude x = mantissaOf digits ++ 'e' :: layout.exponentText leading)) ∧
    spelled (layout.magnitude x) =
      (x.shortest layout.tie).1 * 10 ^ (x.shortest layout.tie).2 := by
  rcases hshortest : x.shortest layout.tie with ⟨number, scale⟩
  have hdigits := isDigits_toDigits number
  have hnumber : Nat.ofDigitChars 10 (Nat.toDigits 10 number) 0 = number :=
    Nat.ofDigitChars_ten_toDigits
  rw [magnitude]
  simp only [hshortest]
  split
  · obtain ⟨whole, fraction, hwhole, hfraction, htext, hvalue⟩ :=
      positional_eq hdigits (scale + (Nat.toDigits 10 number).length - 1)
    have hmark : 'e' ∉ whole ++ '.' :: fraction := by
      simp [hwhole.not_mem, hfraction.not_mem]
    refine ⟨.inl ⟨whole, fraction, hwhole, hfraction, htext⟩, ?_⟩
    rw [htext, spelled_of_not_mem hmark, pointValue_append (hwhole.not_mem (by decide)), hvalue,
      hnumber]
    congr 2
    omega
  · rw [scientific_eq]
    have hmark : 'e' ∉ mantissaOf (Nat.toDigits 10 number) := by
      intro hmem
      rcases mem_mantissaOf hmem with hmem | heq
      · exact hdigits.not_mem (by decide) hmem
      · exact absurd heq (by decide)
    refine ⟨.inr ⟨_, _, hdigits, rfl⟩, ?_⟩
    rw [spelled_append hmark, pointValue_mantissaOf hdigits, exponentOf_exponentText, hnumber,
      mul_assoc, ← zpow_add₀ (by norm_num)]
    congr 2
    omega

lemma body_eq (layout : DecimalLayout) (x : Finite64) :
    (∃ whole fraction, IsDigits whole ∧ IsDigits fraction ∧
      layout.body x = whole ++ '.' :: fraction) ∨
    (∃ digits leading, IsDigits digits ∧
      layout.body x = mantissaOf digits ++ 'e' :: layout.exponentText leading) := by
  rw [body]
  split
  · exact .inl ⟨['0'], ['0'], isDigits_zero, isDigits_zero, rfl⟩
  · exact (layout.magnitude_eq x).1

/-- The text of an absolute value begins with a digit. -/
lemma head_body (layout : DecimalLayout) (x : Finite64) :
    ∃ d rest, layout.body x = d :: rest ∧ d.isDigit = true := by
  rcases layout.body_eq x with
    ⟨whole, fraction, hwhole, -, hbody⟩ | ⟨digits, leading, hdigits, hbody⟩
  · rcases whole with _ | ⟨d, rest⟩
    · exact absurd rfl hwhole.1
    · exact ⟨d, _, hbody, hwhole.2 d List.mem_cons_self⟩
  · rcases digits with _ | ⟨d, _ | ⟨d', rest⟩⟩
    · exact absurd rfl hdigits.1
    · exact ⟨d, _, hbody, hdigits.2 d List.mem_cons_self⟩
    · exact ⟨d, _, hbody, hdigits.2 d List.mem_cons_self⟩

/-- A floating-point number shows that it is one: there is a point or an exponent in its text. -/
lemma exists_mark_mem_write (layout : DecimalLayout) (x : Finite64) :
    '.' ∈ layout.write x ∨ 'e' ∈ layout.write x := by
  rw [write_eq]
  rcases layout.body_eq x with ⟨whole, fraction, -, -, hbody⟩ | ⟨digits, leading, -, hbody⟩
  · exact .inl (by simp [hbody])
  · exact .inr (by simp [hbody])

/-- The characters of numbers. -/
def isNumberChar (c : Char) : Bool :=
  c.isDigit || c == '-' || c == '+' || c == '.' || c == 'e'

lemma IsDigits.isNumberChar {text : List Char} (h : IsDigits text) {c : Char} (hc : c ∈ text) :
    isNumberChar c = true := by
  simp [DecimalLayout.isNumberChar, h.2 c hc]

lemma isNumberChar_of_mem_exponentText {layout : DecimalLayout} {leading : ℤ} {c : Char}
    (h : c ∈ layout.exponentText leading) : isNumberChar c = true := by
  rw [exponentText] at h
  rcases List.mem_append.1 h with h | h
  · split at h
    · rw [List.mem_singleton.1 h]
      rfl
    · split at h
      · rw [List.mem_singleton.1 h]
        rfl
      · cases h
  · exact IsDigits.isNumberChar (isDigits_padded _ _) h

/-- The text of a floating-point number is made of the characters of numbers. -/
lemma isNumberChar_of_mem_write {layout : DecimalLayout} {x : Finite64} {c : Char}
    (h : c ∈ layout.write x) : isNumberChar c = true := by
  rw [write_eq] at h
  rcases List.mem_append.1 h with h | h
  · split at h
    · rw [List.mem_singleton.1 h]
      rfl
    · cases h
  · rcases layout.body_eq x with
      ⟨whole, fraction, hwhole, hfraction, hbody⟩ | ⟨digits, leading, hdigits, hbody⟩
    · rw [hbody, List.mem_append, List.mem_cons] at h
      rcases h with h | rfl | h
      · exact IsDigits.isNumberChar hwhole h
      · rfl
      · exact IsDigits.isNumberChar hfraction h
    · rw [hbody, List.mem_append, List.mem_cons] at h
      rcases h with h | rfl | h
      · rcases mem_mantissaOf h with h | rfl
        · exact IsDigits.isNumberChar hdigits h
        · rfl
      · rfl
      · exact isNumberChar_of_mem_exponentText h

/-! ### One text, one number -/

lemma exponent_of_mantissa_eq_zero {x : Finite64} (h : x.mantissa = 0) : x.exponent = -1074 := by
  have := x.normal
  omega

/-- A number other than zero does not spell zero. -/
lemma spelled_magnitude_pos (layout : DecimalLayout) {x : Finite64} (hx : x.mantissa ≠ 0) :
    0 < spelled (layout.magnitude x) := by
  have hnumber : (0 : ℚ) < (x.shortest layout.tie).1 := by
    exact_mod_cast Nat.pos_of_ne_zero (Finite64.shortest_ne_zero hx layout.tie)
  rw [(layout.magnitude_eq x).2]
  positivity

/-- The text of an absolute value determines it. -/
lemma eq_of_body_eq {layout : DecimalLayout} {x y : Finite64} (h : layout.body x = layout.body y) :
    x.mantissa = y.mantissa ∧ x.exponent = y.exponent := by
  have hzero : spelled ['0', '.', '0'] = 0 := by
    have : ['0', '.', '0'] = ['0'] ++ '.' :: ['0'] := rfl
    rw [this, spelled_of_not_mem (by decide), pointValue_append (by decide)]
    simp [Nat.ofDigitChars_cons]
  unfold body Finite64.isZero at h
  by_cases hx : x.mantissa = 0
  · by_cases hy : y.mantissa = 0
    · rw [exponent_of_mantissa_eq_zero hx, exponent_of_mantissa_eq_zero hy]
      exact ⟨hx.trans hy.symm, rfl⟩
    · simp only [hx, hy, decide_true, decide_false, if_true] at h
      have := spelled_magnitude_pos layout hy
      simp at h
      rw [← h, hzero] at this
      exact absurd this (lt_irrefl 0)
  · by_cases hy : y.mantissa = 0
    · simp [hx, hy] at h
      have := spelled_magnitude_pos layout hx
      rw [h, hzero] at this
      exact absurd this (lt_irrefl 0)
    · simp [hx, hy] at h
      have hattracts := Finite64.attracts_shortest hx layout.tie
      rw [← (layout.magnitude_eq x).2, h, (layout.magnitude_eq y).2] at hattracts
      exact Finite64.eq_of_attracts hattracts (Finite64.attracts_shortest hy layout.tie)

/-- The text of an absolute value has no sign. -/
lemma body_ne_cons_minus (layout : DecimalLayout) (x : Finite64) (text : List Char) :
    layout.body x ≠ '-' :: text := by
  intro h
  obtain ⟨d, rest, hbody, hdigit⟩ := layout.head_body x
  rw [hbody] at h
  rw [List.head_eq_of_cons_eq h] at hdigit
  exact absurd hdigit (by decide)

/-- **One text, one number.**  Different floating-point numbers, also the two zeros, have different
texts. -/
theorem write_injective (layout : DecimalLayout) : Function.Injective layout.write := by
  intro x y h
  rw [write_eq, write_eq] at h
  have hsame : x.negative = y.negative ∧ layout.body x = layout.body y := by
    cases hx : x.negative <;> cases hy : y.negative <;> simp [hx, hy] at h ⊢
    · exact h
    · exact absurd h (layout.body_ne_cons_minus x _)
    · exact absurd h.symm (layout.body_ne_cons_minus y _)
    · exact h
  obtain ⟨hnegative, hbody⟩ := hsame
  obtain ⟨hmantissa, hexponent⟩ := eq_of_body_eq hbody
  cases x
  cases y
  simp_all

/-- The two zeros have different texts. -/
example : DecimalLayout.signed.write (.zero false) ≠ DecimalLayout.signed.write (.zero true) := by
  decide

end DecimalLayout

end DeviceGate
