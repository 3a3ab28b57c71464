import DeviceGate.Json.Canonical
import DeviceGate.Json.Reader
import DeviceGate.Proofs.Number.Layout
import DeviceGate.Proofs.Number.Rounding

/-!
How the reader of documents takes up the text of a number.  Of an integer it makes that integer, and
of a floating-point number the digits and the power of ten that the text spells; what it makes of
these is another matter.

* `DecimalText.significand`, `DecimalText.power`: the digits and the power of ten of a text.
* `Json.takeDigits_append`: digits are taken as long as they fit.
* `Json.readUnsigned?_pointed`, `Json.readUnsigned?_scientific`: a text in either layout is read.
* `Json.readNumber?_write`: so is the text of a floating-point number.
* `Json.readNumber?_encodeInt`: and that of an integer.
* `readBelow?_eq_some_iff`: when a number below a bound is read.
-/

namespace DeviceGate

namespace DecimalText

/-! ### Digits and power -/

/-- The natural number that the digits of a text spell when its point and its exponent are left
out. -/
def significand (text : List Char) : ℕ :=
  let point := text.takeWhile (· ≠ 'e')
  Nat.ofDigitChars 10 (point.takeWhile (· ≠ '.') ++ (point.dropWhile (· ≠ '.')).tail) 0

/-- The power of ten that its point and its exponent stand for. -/
def power (text : List Char) : ℤ :=
  exponentOf (text.dropWhile (· ≠ 'e')).tail -
    ((text.takeWhile (· ≠ 'e')).dropWhile (· ≠ '.')).tail.length

lemma spelled_eq_significand (text : List Char) :
    spelled text = significand text * 10 ^ power text := by
  rw [spelled, pointValue, significand, power, zpow_sub₀ (by norm_num), zpow_natCast]
  ring

/-- A text with a point and without an exponent. -/
lemma parts_pointed {whole fraction : List Char} (hwhole : IsDigits whole)
    (hfraction : IsDigits fraction) :
    significand (whole ++ '.' :: fraction) = Nat.ofDigitChars 10 (whole ++ fraction) 0 ∧
      power (whole ++ '.' :: fraction) = -(fraction.length : ℤ) := by
  have hmark : 'e' ∉ whole ++ '.' :: fraction := by
    simp [hwhole.not_mem, hfraction.not_mem]
  have hpoint : '.' ∉ whole := hwhole.not_mem (by decide)
  rw [significand, power, takeWhile_ne_self hmark, dropWhile_ne_self hmark,
    takeWhile_ne_append hpoint, dropWhile_ne_append hpoint]
  simp [exponentOf]

/-- A text with an exponent. -/
lemma parts_scientific (layout : DecimalLayout) {digits : List Char} (hdigits : IsDigits digits)
    (leading : ℤ) :
    significand (DecimalLayout.mantissaOf digits ++ 'e' :: layout.exponentText leading) =
        Nat.ofDigitChars 10 digits 0 ∧
      power (DecimalLayout.mantissaOf digits ++ 'e' :: layout.exponentText leading) =
        leading + 1 - digits.length := by
  have hmark : 'e' ∉ DecimalLayout.mantissaOf digits := by
    intro hmem
    rcases DecimalLayout.mem_mantissaOf hmem with hmem | heq
    · exact hdigits.not_mem (by decide) hmem
    · exact absurd heq (by decide)
  have hpoint : '.' ∉ digits := hdigits.not_mem (by decide)
  rw [significand, power, takeWhile_ne_append hmark, dropWhile_ne_append hmark, List.tail_cons,
    DecimalLayout.exponentOf_exponentText]
  rcases digits with _ | ⟨d, _ | ⟨d', rest⟩⟩
  · exact absurd rfl hdigits.1
  · have hfirst : (DecimalLayout.mantissaOf [d]) = [d] := rfl
    rw [hfirst, takeWhile_ne_self hpoint, dropWhile_ne_self hpoint]
    simp
  · have hsplit : DecimalLayout.mantissaOf (d :: d' :: rest) = [d] ++ '.' :: d' :: rest := rfl
    have hfirst : '.' ∉ [d] := fun hmem => hpoint (List.mem_cons.2 (.inl (by simpa using hmem)))
    rw [hsplit, takeWhile_ne_append hfirst, dropWhile_ne_append hfirst]
    refine ⟨rfl, ?_⟩
    simp only [List.tail_cons, List.length_cons]
    push_cast
    ring

/-- Digits without a zero in front, unless zero is all there is. -/
def IsPlain (digits : List Char) : Prop :=
  digits.head? = some '0' → digits = ['0']

lemma head?_toDigits_ne {n : ℕ} (hn : n ≠ 0) : (Nat.toDigits 10 n).head? ≠ some '0' := by
  induction n using Nat.strong_induction_on with
  | _ n ih =>
      rcases Nat.lt_or_ge n 10 with hone | hmore
      · rw [Nat.toDigits_of_lt_base hone]
        have hall : ∀ n < 10, n ≠ 0 → [n.digitChar].head? ≠ some '0' := by decide
        exact hall n hone hn
      · rw [Nat.toDigits_of_base_le (by norm_num) hmore,
          List.head?_append_of_ne_nil _ Nat.toDigits_ne_nil]
        exact ih (n / 10) (by omega) (by omega)

lemma isPlain_toDigits (n : ℕ) : IsPlain (Nat.toDigits 10 n) := by
  intro hzero
  by_cases hn : n = 0
  · rw [hn]
    rfl
  · exact absurd hzero (head?_toDigits_ne hn)

end DecimalText

namespace Json

open DecimalText

/-! ### Runs of digits -/

lemma isDigit_eq (c : Char) : isDigit c = c.isDigit := by
  simp [isDigit, Char.isDigit, Char.le_def]

lemma digitsValue_eq (ds : List Char) : digitsValue ds = Nat.ofDigitChars 10 ds 0 :=
  rfl

/-- No digit goes on there. -/
def EndsDigits (rest : List Char) : Prop :=
  ∀ c ∈ rest.head?, isDigit c = false

/-- Digits that go on never make a smaller number. -/
lemma le_ofDigitChars (ds : List Char) (n : ℕ) : n ≤ Nat.ofDigitChars 10 ds n := by
  induction ds generalizing n with
  | nil => rfl
  | cons d ds ih =>
      rw [Nat.ofDigitChars_cons]
      exact le_trans (by omega) (ih _)

/-- Digits are taken as long as they fit. -/
lemma takeDigits_append {ds rest : List Char} (hds : ∀ c ∈ ds, c.isDigit = true)
    (hrest : EndsDigits rest) (n : ℕ) (hfits : Nat.ofDigitChars 10 ds n < 18446744073709551616) :
    takeDigits n (ds ++ rest) = (Nat.ofDigitChars 10 ds n, ds.length, rest) := by
  induction ds generalizing n with
  | nil =>
      cases rest with
      | nil => rfl
      | cons c rest => simp [takeDigits, hrest c rfl]
  | cons d ds ih =>
      rw [Nat.ofDigitChars_cons] at hfits ⊢
      have hstep : 10 * n + digitOf d < 18446744073709551616 :=
        (le_ofDigitChars ds _).trans_lt hfits
      have htail := ih (fun c hc => hds c (List.mem_cons_of_mem _ hc)) _ hfits
      have hdigit : isDigit d = true := by rw [isDigit_eq, hds d List.mem_cons_self]
      rw [List.cons_append, takeDigits, hdigit, Bool.true_and, if_pos (decide_eq_true hstep)]
      simp only [digitOf, htail, List.length_cons]

lemma EndsDigits.takeWhile_isDigit {rest : List Char} (h : EndsDigits rest) :
    rest.takeWhile isDigit = [] ∧ rest.dropWhile isDigit = rest := by
  cases rest with
  | nil => simp
  | cons c rest => simp [h c rfl]

lemma takeWhile_isDigit_append {ds rest : List Char} (hds : ∀ c ∈ ds, c.isDigit = true)
    (hrest : EndsDigits rest) :
    (ds ++ rest).takeWhile isDigit = ds ∧ (ds ++ rest).dropWhile isDigit = rest := by
  have hall : ∀ c ∈ ds, isDigit c = true := fun c hc => by rw [isDigit_eq, hds c hc]
  rw [List.takeWhile_append_of_pos hall, List.dropWhile_append_of_pos hall,
    hrest.takeWhile_isDigit.1, hrest.takeWhile_isDigit.2, List.append_nil]
  exact ⟨rfl, rfl⟩

/-! ### The parts of a number -/

/-- No number goes on there. -/
def EndsNumber (rest : List Char) : Prop :=
  ∀ c ∈ rest.head?, isDigit c = false ∧ c ≠ '.' ∧ c ≠ 'e' ∧ c ≠ 'E'

lemma EndsNumber.endsDigits {rest : List Char} (h : EndsNumber rest) : EndsDigits rest :=
  fun c hc => (h c hc).1

section Parts

variable {negative : Bool} {rest : List Char}

/-- A number without an exponent is at its end. -/
lemma readExponentPart?_end (hrest : EndsNumber rest) (n : ℕ) (e : ℤ) :
    readExponentPart? negative n e rest =
      (realOfParts? negative n e).map fun x => (.real x, rest) := by
  cases rest with
  | nil => rfl
  | cons c rest =>
      obtain ⟨-, -, hlower, hupper⟩ := hrest c rfl
      simp [readExponentPart?, hlower, hupper]

/-- An exponent adds to the power of ten. -/
lemma readExponentPart?_exponentText (hrest : EndsNumber rest) (n : ℕ) (e : ℤ) {leading : ℤ}
    (hleading : leading.natAbs < 2147483648) :
    readExponentPart? negative n e ('e' :: (DecimalLayout.signed.exponentText leading ++ rest)) =
      (realOfParts? negative n (e + leading)).map fun x => (.real x, rest) := by
  have hdigits := DecimalLayout.isDigits_padded DecimalLayout.signed.exponentDigits leading.natAbs
  obtain ⟨htake, hdrop⟩ := takeWhile_isDigit_append hdigits.2 hrest.endsDigits
  have hnonempty : (DecimalLayout.padded DecimalLayout.signed.exponentDigits
      leading.natAbs).isEmpty = false := by
    simpa using hdigits.1
  have hvalue :=
    DecimalLayout.ofDigitChars_padded DecimalLayout.signed.exponentDigits leading.natAbs
  rw [DecimalLayout.exponentText]
  by_cases hneg : leading < 0
  · have hsum : e - |leading| = e + leading := by rw [abs_of_neg hneg, sub_neg_eq_add]
    simp [readExponentPart?, hneg, htake, hdrop, hnonempty, digitsValue_eq, hvalue,
      not_le.2 hleading, hsum]
  · have hsum : e + |leading| = e + leading := by rw [abs_of_nonneg (not_lt.1 hneg)]
    have hplus : DecimalLayout.signed.plusSign = true := rfl
    simp [readExponentPart?, hneg, hplus, htake, hdrop, hnonempty, digitsValue_eq, hvalue,
      not_le.2 hleading, hsum]

/-- The digits behind a point scale the number down. -/
lemma readFraction?_eq {fraction tail : List Char} (hfraction : IsDigits fraction)
    (htail : EndsDigits tail) (n : ℕ) (e : ℤ)
    (hfits : Nat.ofDigitChars 10 fraction n < 18446744073709551616) :
    readFraction? negative n e (fraction ++ tail) =
      readExponentPart? negative (Nat.ofDigitChars 10 fraction n) (e - fraction.length) tail := by
  simp [readFraction?, takeDigits_append hfraction.2 htail n hfits, htail.takeWhile_isDigit.2,
    hfraction.1]

/-- What becomes of a number whose digits up to here are taken. -/
def readBehind? (negative : Bool) (n : ℕ) : List Char → Option (Json × List Char)
  | '.' :: after => readFraction? negative n 0 after
  | after =>
    if !(after.head? == some 'e' || after.head? == some 'E') then
      (wholeNumber? negative n).map fun v => (v, after)
    else readExponentPart? negative n 0 after

/-- What follows when the digits at the head of a number are taken and none is left. -/
lemma readUnsigned?_cons {first : Char} {others tail : List Char} {n taken : ℕ}
    (hfirst : isDigit first = true)
    (htaken : (if first = '0' then (0, 0, others) else takeDigits 0 (first :: others)) =
      (n, taken, tail)) (htail : EndsDigits tail) :
    readUnsigned? negative (first :: others) = readBehind? negative n tail := by
  obtain ⟨htake, hdrop⟩ := htail.takeWhile_isDigit
  have hnext : (tail.head?.map isDigit).getD false = false := by
    cases tail with
    | nil => rfl
    | cons c tail => exact htail c rfl
  rw [readUnsigned?]
  simp only [hfirst, htaken, hnext, htake, hdrop, Bool.not_true, Bool.and_false, Bool.false_eq_true,
    if_false, List.isEmpty_nil, Bool.true_and, List.length_nil, Nat.cast_zero]
  rfl

/-- The digits at the head of a number are taken. -/
lemma readUnsigned?_whole {whole tail : List Char} (hwhole : IsDigits whole)
    (hplain : IsPlain whole) (htail : EndsDigits tail)
    (hfits : Nat.ofDigitChars 10 whole 0 < 18446744073709551616) :
    readUnsigned? negative (whole ++ tail) =
      readBehind? negative (Nat.ofDigitChars 10 whole 0) tail := by
  rcases whole with _ | ⟨d, ds⟩
  · exact absurd rfl hwhole.1
  have hdigit : isDigit d = true := by rw [isDigit_eq, hwhole.2 d List.mem_cons_self]
  by_cases hzero : d = '0'
  · subst hzero
    obtain rfl : ds = [] := by simpa using hplain rfl
    exact readUnsigned?_cons hdigit (if_pos rfl) htail
  · have htaken := takeDigits_append hwhole.2 htail 0 hfits
    exact readUnsigned?_cons hdigit ((if_neg hzero).trans htaken) htail

/-- A text with a point is read as the digits and the power that it spells. -/
lemma readUnsigned?_pointed {whole fraction : List Char} (hwhole : IsDigits whole)
    (hplain : IsPlain whole) (hfraction : IsDigits fraction) (hrest : EndsNumber rest)
    (hfits : significand (whole ++ '.' :: fraction) < 18446744073709551616) :
    readUnsigned? negative (whole ++ '.' :: fraction ++ rest) =
      (realOfParts? negative (significand (whole ++ '.' :: fraction))
        (power (whole ++ '.' :: fraction))).map fun x => (.real x, rest) := by
  obtain ⟨hsignificand, hpower⟩ := parts_pointed hwhole hfraction
  rw [hsignificand] at hfits ⊢
  rw [Nat.ofDigitChars_append] at hfits ⊢
  have htail : EndsDigits ('.' :: (fraction ++ rest)) := by
    intro c hc
    cases hc
    decide
  rw [hpower, List.append_assoc, List.cons_append,
    readUnsigned?_whole hwhole hplain htail ((le_ofDigitChars fraction _).trans_lt hfits),
    readBehind?, readFraction?_eq hfraction hrest.endsDigits _ _ hfits, readExponentPart?_end hrest,
    zero_sub]

/-- A text with an exponent is read as the digits and the power that it spells. -/
lemma readUnsigned?_scientific {digits : List Char} (hdigits : IsDigits digits)
    (hplain : digits.head? ≠ some '0') {leading : ℤ} (hleading : leading.natAbs < 2147483648)
    (hrest : EndsNumber rest) (hfits : Nat.ofDigitChars 10 digits 0 < 18446744073709551616) :
    let text := DecimalLayout.mantissaOf digits ++
      'e' :: DecimalLayout.signed.exponentText leading
    readUnsigned? negative (text ++ rest) =
      (realOfParts? negative (significand text) (power text)).map fun x => (.real x, rest) := by
  intro text
  obtain ⟨hsignificand, hpower⟩ := parts_scientific .signed hdigits leading
  have hexponent : ∀ r : List Char, EndsDigits ('e' :: r) := by
    intro r c hc
    cases hc
    decide
  rw [hsignificand, hpower, List.append_assoc, List.cons_append]
  rcases digits with _ | ⟨d, _ | ⟨d', more⟩⟩
  · exact absurd rfl hdigits.1
  · have hfirst : DecimalLayout.mantissaOf [d] = [d] := rfl
    rw [hfirst, readUnsigned?_whole hdigits (fun h => absurd h hplain) (hexponent _) hfits]
    have hbehind : ∀ n after, readBehind? negative n ('e' :: after) =
        readExponentPart? negative n 0 ('e' :: after) := fun _ _ => rfl
    rw [hbehind, readExponentPart?_exponentText hrest _ _ hleading]
    simp
  · have hsplit : ∀ r, DecimalLayout.mantissaOf (d :: d' :: more) ++ r =
        [d] ++ '.' :: (d' :: more ++ r) := fun _ => rfl
    have hone : IsDigits [d] := ⟨by simp, fun c hc => hdigits.2 c (by simp_all)⟩
    have hmore : IsDigits (d' :: more) :=
      ⟨by simp, fun c hc => hdigits.2 c (List.mem_cons_of_mem _ hc)⟩
    have hpoint : ∀ r : List Char, EndsDigits ('.' :: r) := by
      intro r c hc
      cases hc
      decide
    have hall : Nat.ofDigitChars 10 (d :: d' :: more) 0 =
        Nat.ofDigitChars 10 (d' :: more) (Nat.ofDigitChars 10 [d] 0) := by
      simp [Nat.ofDigitChars_cons]
    rw [hall] at hfits ⊢
    rw [hsplit, readUnsigned?_whole hone (fun h => absurd h hplain) (hpoint _)
        ((le_ofDigitChars _ _).trans_lt hfits),
      readBehind?, readFraction?_eq hmore (hexponent _) _ _ hfits,
      readExponentPart?_exponentText hrest _ _ hleading]
    have hpower : (0 - ((d' :: more).length : ℤ) + leading) =
        leading + 1 - ((d :: d' :: more).length : ℤ) := by
      simp only [List.length_cons]
      push_cast
      ring
    rw [hpower]

/-- The text of a positive number, in one of the two layouts. -/
inductive IsNumeral : List Char → Prop where
  | pointed {whole fraction : List Char} : IsDigits whole → IsPlain whole → IsDigits fraction →
      IsNumeral (whole ++ '.' :: fraction)
  | scientific {digits : List Char} {leading : ℤ} : IsDigits digits → digits.head? ≠ some '0' →
      leading.natAbs < 2147483648 →
      IsNumeral
        (DecimalLayout.mantissaOf digits ++ 'e' :: DecimalLayout.signed.exponentText leading)

/-- A text in one of the layouts is read as the digits and the power that it spells. -/
lemma readUnsigned?_numeral {text : List Char} (h : IsNumeral text) (hrest : EndsNumber rest)
    (hfits : significand text < 18446744073709551616) :
    readUnsigned? negative (text ++ rest) =
      (realOfParts? negative (significand text) (power text)).map fun x => (.real x, rest) := by
  cases h with
  | pointed hwhole hplain hfraction =>
      exact readUnsigned?_pointed hwhole hplain hfraction hrest hfits
  | scientific hdigits hplain hleading =>
      rw [(parts_scientific .signed hdigits _).1] at hfits
      exact readUnsigned?_scientific hdigits hplain hleading hrest hfits

end Parts

/-! ### The text of a floating-point number -/

/-- So many digits spell a number below that power of ten. -/
lemma ofDigitChars_lt {ds : List Char} (hds : ∀ c ∈ ds, c.isDigit = true) (n : ℕ) :
    Nat.ofDigitChars 10 ds n < (n + 1) * 10 ^ ds.length := by
  induction ds generalizing n with
  | nil => simp
  | cons d ds ih =>
      have hdigit : d.toNat - '0'.toNat < 10 := by
        have hrange : 48 ≤ d.toNat ∧ d.toNat ≤ 57 := by
          simpa [Char.isDigit, UInt32.le_iff_toNat_le] using hds d List.mem_cons_self
        have hzero : '0'.toNat = 48 := rfl
        omega
      rw [Nat.ofDigitChars_cons, List.length_cons, pow_succ]
      calc Nat.ofDigitChars 10 ds (10 * n + (d.toNat - '0'.toNat))
          < (10 * n + (d.toNat - '0'.toNat) + 1) * 10 ^ ds.length :=
            ih (fun c hc => hds c (List.mem_cons_of_mem _ hc)) _
        _ ≤ ((n + 1) * 10) * 10 ^ ds.length := Nat.mul_le_mul_right _ (by omega)
        _ = (n + 1) * (10 ^ ds.length * 10) := by ring

/-- Digits of that number at most spell a number below that power of ten. -/
lemma ofDigitChars_lt_of_length_le {ds : List Char} (hds : ∀ c ∈ ds, c.isDigit = true) {k : ℕ}
    (hlength : ds.length ≤ k) : Nat.ofDigitChars 10 ds 0 < 10 ^ k := by
  calc Nat.ofDigitChars 10 ds 0 < (0 + 1) * 10 ^ ds.length := ofDigitChars_lt hds 0
    _ = 10 ^ ds.length := by rw [zero_add, one_mul]
    _ ≤ 10 ^ k := Nat.pow_le_pow_right (by norm_num) hlength

/-- The positional layout of seventeen digits at most, where the leading one stands within its
bounds. -/
lemma isNumeral_positional {digits : List Char} (hdigits : IsDigits digits)
    (hplain : digits.head? ≠ some '0') (hlength : digits.length ≤ 17) {leading : ℤ}
    (hlow : -4 ≤ leading) (hhigh : leading ≤ 15) :
    let text := DecimalLayout.positional digits leading
    IsNumeral text ∧ significand text < 10 ^ 17 ∧ -20 ≤ power text := by
  intro text
  have hvalue : Nat.ofDigitChars 10 digits 0 < 10 ^ 17 :=
    ofDigitChars_lt_of_length_le hdigits.2 hlength
  by_cases hneg : leading < 0
  · obtain ⟨zeros, hzeros⟩ := Int.eq_ofNat_of_zero_le (by omega : 0 ≤ -leading - 1)
    have htext : text = ['0'] ++ '.' :: (List.replicate zeros '0' ++ digits) := by
      simp [text, DecimalLayout.positional, hneg, hzeros]
    have hfraction := hdigits.zeros_append zeros
    obtain ⟨hsignificand, hpower⟩ := parts_pointed isDigits_zero hfraction
    rw [htext, hsignificand, hpower]
    refine ⟨.pointed isDigits_zero (fun _ => rfl) hfraction, ?_, ?_⟩
    · simpa [Nat.ofDigitChars_append, Nat.ofDigitChars_cons] using hvalue
    · simp only [List.length_append, List.length_replicate]
      omega
  · by_cases hshort : digits.length ≤ leading.toNat + 1
    · obtain ⟨zeros, hzeros⟩ := Nat.exists_eq_add_of_le hshort
      have htext : text = (digits ++ List.replicate zeros '0') ++ '.' :: ['0'] := by
        simp [text, DecimalLayout.positional, hneg, hzeros]
      have hwhole := hdigits.append_zeros zeros
      obtain ⟨hsignificand, hpower⟩ := parts_pointed hwhole isDigits_zero
      rw [htext, hsignificand, hpower]
      refine ⟨.pointed hwhole (fun hhead => absurd hhead ?_) isDigits_zero, ?_, by simp⟩
      · rwa [List.head?_append_of_ne_nil _ hdigits.1]
      · refine ofDigitChars_lt_of_length_le (fun c hc => ?_) ?_
        · rcases List.mem_append.1 hc with hc | hc
          · exact hwhole.2 c hc
          · exact isDigits_zero.2 c hc
        · simp only [List.length_append, List.length_replicate, List.length_singleton]
          omega
    · have htext : text =
          digits.take (leading.toNat + 1) ++ '.' :: digits.drop (leading.toNat + 1) := by
        simp [text, DecimalLayout.positional, hneg, hshort]
      have hwhole : IsDigits (digits.take (leading.toNat + 1)) :=
        ⟨by simp [hdigits.1], fun c hc => hdigits.2 c (List.mem_of_mem_take hc)⟩
      have hfraction : IsDigits (digits.drop (leading.toNat + 1)) :=
        ⟨by simpa using hshort, fun c hc => hdigits.2 c (List.mem_of_mem_drop hc)⟩
      obtain ⟨hsignificand, hpower⟩ := parts_pointed hwhole hfraction
      rw [htext, hsignificand, hpower, List.take_append_drop]
      refine ⟨.pointed hwhole (fun hhead => absurd hhead ?_) hfraction, hvalue, ?_⟩
      · rwa [List.head?_take, if_neg (by omega)]
      · rw [List.length_drop]
        omega

/-- The text of an absolute value can be read, and its digits fit 64 bits. -/
lemma isNumeral_body (x : Finite64) :
    IsNumeral (DecimalLayout.signed.body x) ∧
      significand (DecimalLayout.signed.body x) < 10 ^ 17 ∧
      -417 ≤ power (DecimalLayout.signed.body x) := by
  rw [DecimalLayout.body]
  by_cases hx : x.mantissa = 0
  · have hzero : x.isZero = true := by simp [Finite64.isZero, hx]
    obtain ⟨hsignificand, hpower⟩ := parts_pointed isDigits_zero isDigits_zero
    rw [if_pos hzero, show ['0', '.', '0'] = ['0'] ++ '.' :: ['0'] from rfl, hsignificand, hpower]
    exact ⟨.pointed isDigits_zero (fun _ => rfl) isDigits_zero, by decide, by decide⟩
  · have hnonzero : x.isZero = false := by simp [Finite64.isZero, hx]
    obtain ⟨hdigits, hscale⟩ := Finite64.shortest_bounds hx .larger
    have hnumber := Finite64.shortest_ne_zero hx .larger
    have hreach := Binary64.shortest_scale_le hx .larger
    have hleading : -401 ≤ x.leadingExponent := by
      rw [Finite64.leadingExponent]
      omega
    rw [if_neg (by simp [hnonzero]), DecimalLayout.magnitude,
      show DecimalLayout.signed.tie = .larger from rfl]
    rcases hshortest : x.shortest .larger with ⟨number, scale⟩
    rw [hshortest] at hdigits hscale hnumber hreach
    simp only at hdigits hscale hnumber hreach ⊢
    have hplain := head?_toDigits_ne hnumber
    have hlength : (Nat.toDigits 10 number).length ≤ 17 :=
      (Nat.length_toDigits_le_iff (by norm_num) (by norm_num)).2 hdigits
    split
    · rename_i hwithin
      obtain ⟨hnumeral, hsignificand, hpower⟩ :=
        isNumeral_positional (isDigits_toDigits number) hplain hlength hwithin.1 hwithin.2
      exact ⟨hnumeral, hsignificand, by omega⟩
    · rw [DecimalLayout.scientific_eq]
      obtain ⟨hsignificand, hpower⟩ := parts_scientific .signed
        (isDigits_toDigits number) (scale + (Nat.toDigits 10 number).length - 1)
      rw [hsignificand, hpower, Nat.ofDigitChars_ten_toDigits]
      exact ⟨.scientific (isDigits_toDigits number) hplain (by omega), hdigits, by omega⟩

/-! ### Numbers at the head of a text -/

/-- Without a minus sign, a number is read from its first digit on. -/
lemma readNumber?_unsigned {ds : List Char} (hds : IsDigits ds) (tail : List Char) :
    readNumber? (ds ++ tail) = readUnsigned? false (ds ++ tail) := by
  rcases ds with _ | ⟨d, ds⟩
  · exact absurd rfl hds.1
  · have hfirst : d ≠ '-' := by
      rintro rfl
      exact absurd (hds.2 '-' List.mem_cons_self) (by decide)
    rw [List.cons_append]
    unfold readNumber?
    split
    · rename_i heq
      exact absurd (List.head_eq_of_cons_eq heq) hfirst
    · rfl

/-- The text of a floating-point number is read as what it spells. -/
theorem readNumber?_write (x : Finite64) {rest : List Char} (hrest : EndsNumber rest) :
    readNumber? (DecimalLayout.signed.write x ++ rest) =
      (realOfParts? x.negative (significand (DecimalLayout.signed.body x))
        (power (DecimalLayout.signed.body x))).map fun y => (.real y, rest) := by
  obtain ⟨hnumeral, hfits, -⟩ := isNumeral_body x
  have hread : ∀ negative, readUnsigned? negative (DecimalLayout.signed.body x ++ rest) = _ :=
    fun negative => readUnsigned?_numeral hnumeral hrest (hfits.trans (by norm_num))
  rw [DecimalLayout.write_eq]
  cases hnegative : x.negative with
  | true => exact hread true
  | false =>
      obtain ⟨d, more, hbody, hdigit⟩ := DecimalLayout.signed.head_body x
      have hfirst : IsDigits [d] := ⟨by simp, fun c hc => by rwa [List.mem_singleton.1 hc]⟩
      rw [← hread false, hbody]
      exact readNumber?_unsigned hfirst (more ++ rest)

lemma readBehind?_end {negative : Bool} {rest : List Char} (hrest : EndsNumber rest) (n : ℕ) :
    readBehind? negative n rest = (wholeNumber? negative n).map fun v => (v, rest) := by
  unfold readBehind?
  split
  · exact absurd rfl (hrest '.' rfl).2.1
  · rename_i hpoint
    rw [if_pos]
    cases rest with
    | nil => rfl
    | cons c rest => simp [(hrest c rfl).2.2.1, (hrest c rfl).2.2.2]

/-- A number that fits 64 bits is one. -/
lemma ofInt?_val (n : Integer64) : Integer64.ofInt? n.val = some n := by
  rw [Integer64.ofInt?, dif_pos ⟨n.ge, n.lt⟩]

/-- The text of an integer is read as that integer. -/
theorem readNumber?_encodeInt (n : Integer64) {rest : List Char} (hrest : EndsNumber rest) :
    readNumber? (encodeInt n.val ++ rest) = some (.integer n, rest) := by
  have hdigits := isDigits_toDigits n.val.natAbs
  have hfits : n.val.natAbs < 18446744073709551616 := by
    have := n.ge
    have := n.lt
    omega
  have hread : ∀ negative, readUnsigned? negative (Nat.toDigits 10 n.val.natAbs ++ rest) =
      (wholeNumber? negative n.val.natAbs).map fun v => (v, rest) := by
    intro negative
    rw [readUnsigned?_whole hdigits (isPlain_toDigits _) hrest.endsDigits
      (by rwa [Nat.ofDigitChars_ten_toDigits]), readBehind?_end hrest,
      Nat.ofDigitChars_ten_toDigits]
  rw [encodeInt]
  split
  · rename_i hneg
    have hval : -(n.val.natAbs : ℤ) = n.val := by omega
    have hnonzero : n.val.natAbs ≠ 0 := by omega
    rw [List.cons_append, readNumber?, hread, wholeNumber?, if_pos rfl, if_neg hnonzero, hval,
      ofInt?_val]
    rfl
  · rename_i hpos
    have hval : (n.val.natAbs : ℤ) = n.val := by omega
    rw [readNumber?_unsigned hdigits, hread, wholeNumber?, if_neg (by simp), hval, ofInt?_val]
    rfl

end Json

/-! ### Numbers below a bound -/

section Below

variable {bound n : ℕ} {ds : List Char}

/-- A number is read below a bound if it is spelled by digits, and stays below the bound. -/
lemma readBelow?_eq_some_iff :
    readBelow? bound ds = some n ↔
      ds ≠ [] ∧ (∀ c ∈ ds, isDigit c = true) ∧ n = digitsValue ds ∧ n < bound := by
  rw [readBelow?]
  split
  · rename_i hds
    simp only [Bool.or_eq_true, List.isEmpty_iff, Bool.not_eq_true', List.all_eq_false] at hds
    simp only [reduceCtorEq, false_iff]
    rintro ⟨hne, hdigits, -⟩
    obtain hnil | ⟨c, hc, hdigit⟩ := hds
    · exact hne hnil
    · exact hdigit (hdigits c hc)
  · rename_i hds
    simp only [Bool.or_eq_true, List.isEmpty_iff, Bool.not_eq_true', List.all_eq_false, not_or,
      not_exists, not_and, not_not] at hds
    simp only [Option.ite_none_right_eq_some, Option.some.injEq]
    constructor
    · rintro ⟨hlt, rfl⟩
      exact ⟨hds.1, hds.2, rfl, hlt⟩
    · rintro ⟨-, -, rfl, hlt⟩
      exact ⟨hlt, rfl⟩

/-- What is read below a bound stays below it. -/
lemma lt_of_readBelow? (h : readBelow? bound ds = some n) : n < bound :=
  (readBelow?_eq_some_iff.1 h).2.2.2

end Below

end DeviceGate
