import DeviceGate.Text.Hex
import Mathlib.Tactic

/-!
Hexadecimal text in either case.  A text stands for some bytes exactly if it is, in lower case, the
text that is written for them: an odd number of characters, a character that is no digit and one
beyond ASCII are all in the way of that, and nothing but the case of a letter is left open.

* `Text.Hex.digitValue?_eq_some_iff`: which characters have a value, and which value it is.
* `Text.Hex.decode?_eq_some_iff`: what is read, as what would have been written.
-/

namespace DeviceGate.Text

/-! ### Letters in lower case -/

/-- What holds of the first 128 characters holds of every ASCII character. -/
lemma forall_ascii {P : Char → Prop} (h : ∀ k < 128, P (Char.ofNat k)) {c : Char}
    (hc : c.toNat < 128) : P c := by
  have hchar := h c.toNat hc
  rwa [Char.ofNat_toNat] at hchar

lemma toLower_of_not_ascii {c : Char} (h : 128 ≤ c.toNat) : c.toLower = c := by
  refine dif_neg ?_
  rintro ⟨-, hle⟩
  have hle' : c.toNat ≤ 90 := hle
  omega

/-- Nothing is lowered twice. -/
lemma toLower_toLower (c : Char) : c.toLower.toLower = c.toLower := by
  by_cases h : c.toNat < 128
  · exact forall_ascii (P := fun c => c.toLower.toLower = c.toLower) (by decide) h
  · rw [toLower_of_not_ascii (c := c) (by omega), toLower_of_not_ascii (by omega)]

namespace Hex

/-! ### Digits -/

lemma digit_mod (n : ℕ) : digit (n % 16) = digit n := by
  rw [digit, digit, Nat.mod_mod]

/-- Digits are ASCII. -/
lemma toNat_digit_lt (n : ℕ) : (digit n).toNat < 128 := by
  have hall : ∀ k < 16, (Nat.digitChar k).toNat < 128 := by decide
  exact hall _ (Nat.mod_lt _ (by decide))

lemma digitValue?_of_not_ascii {c : Char} (h : 128 ≤ c.toNat) : digitValue? c = none := by
  have hbeyond : ∀ d : Char, d.toNat < 128 → ¬ c ≤ d := by
    intro d hd hle
    have hle' : c.toNat ≤ d.toNat := hle
    omega
  rw [digitValue?, if_neg fun hdigit => hbeyond '9' (by decide) hdigit.2,
    if_neg fun hlower => hbeyond 'f' (by decide) hlower.2,
    if_neg fun hupper => hbeyond 'F' (by decide) hupper.2]

/-- A character has a value exactly if it is, in lower case, the digit of that value. -/
lemma digitValue?_eq_some_iff {c : Char} {n : ℕ} :
    digitValue? c = some n ↔ n < 16 ∧ c.toLower = digit n := by
  by_cases h : c.toNat < 128
  · have hsmall : ∀ m ∈ digitValue? c, m < 16 :=
      forall_ascii (P := fun c => ∀ m ∈ digitValue? c, m < 16) (by decide) h
    have hdigit : ∀ m < 16, digitValue? c = some m ↔ c.toLower = digit m :=
      forall_ascii (P := fun c => ∀ m < 16, digitValue? c = some m ↔ c.toLower = digit m)
        (by decide +kernel) h
    exact ⟨fun hn => ⟨hsmall n hn, (hdigit n (hsmall n hn)).1 hn⟩, fun hn => (hdigit n hn.1).2 hn.2⟩
  · have hbeyond : 128 ≤ c.toNat := Nat.le_of_not_lt h
    rw [digitValue?_of_not_ascii hbeyond, toLower_of_not_ascii hbeyond]
    refine ⟨fun hnone => absurd hnone (by simp), fun hn => ?_⟩
    have hlt := toNat_digit_lt n
    rw [← hn.2] at hlt
    omega

/-! ### Bytes -/

lemma encode_cons (b : UInt8) (bytes : List UInt8) :
    encode (b :: bytes) = digit (b.toNat / 16) :: digit b.toNat :: encode bytes :=
  rfl

/-- What is written has no upper-case letter. -/
lemma map_toLower_encode (bytes : List UInt8) : (encode bytes).map Char.toLower = encode bytes := by
  have hdigit : ∀ n, (digit n).toLower = digit n := by
    intro n
    have hall : ∀ k < 16, (Nat.digitChar k).toLower = Nat.digitChar k := by decide
    exact hall _ (Nat.mod_lt _ (by decide))
  induction bytes with
  | nil => rfl
  | cons b rest ih => rw [encode_cons, List.map_cons, List.map_cons, hdigit, hdigit, ih]

/-- The two digits of a byte are those of its halves. -/
lemma byte_eq_iff {b : UInt8} {h l : ℕ} (hh : h < 16) (hl : l < 16) :
    UInt8.ofNat (16 * h + l) = b ↔ h = b.toNat / 16 ∧ l = b.toNat % 16 := by
  have hb : b.toNat < 256 := b.toNat_lt
  have hbyte : (UInt8.ofNat (16 * h + l)).toNat = 16 * h + l := by
    rw [UInt8.toNat_ofNat']
    omega
  rw [← UInt8.toNat_inj, hbyte]
  omega

/-- Two characters stand for a byte exactly if they are, in lower case, its digits. -/
lemma digits_of_byte_iff {high low : Char} {b : UInt8} :
    (∃ h l, digitValue? high = some h ∧ digitValue? low = some l ∧
        UInt8.ofNat (16 * h + l) = b) ↔
      high.toLower = digit (b.toNat / 16) ∧ low.toLower = digit b.toNat := by
  have hb : b.toNat < 256 := b.toNat_lt
  constructor
  · rintro ⟨h, l, hhigh, hlow, hbyte⟩
    obtain ⟨hh, hhigh⟩ := digitValue?_eq_some_iff.1 hhigh
    obtain ⟨hl, hlow⟩ := digitValue?_eq_some_iff.1 hlow
    obtain ⟨rfl, rfl⟩ := (byte_eq_iff hh hl).1 hbyte
    exact ⟨hhigh, hlow.trans (digit_mod b.toNat)⟩
  · rintro ⟨hhigh, hlow⟩
    have hh : b.toNat / 16 < 16 := by omega
    have hl : b.toNat % 16 < 16 := by omega
    exact ⟨b.toNat / 16, b.toNat % 16, digitValue?_eq_some_iff.2 ⟨hh, hhigh⟩,
      digitValue?_eq_some_iff.2 ⟨hl, hlow.trans (digit_mod b.toNat).symm⟩,
      (byte_eq_iff hh hl).2 ⟨rfl, rfl⟩⟩

/-- **Hexadecimal text in either case.**  A text stands for some bytes exactly if it is, in lower
case, what is written for them. -/
theorem decode?_eq_some_iff {cs : List Char} {bytes : List UInt8} :
    decode? cs = some bytes ↔ cs.map Char.toLower = encode bytes := by
  -- the induction goes two characters at a time, as the reading does
  induction cs using decode?.induct generalizing bytes with
  | case1 =>
      cases bytes with
      | nil => simp [decode?, encode]
      | cons b rest => simp [decode?, encode_cons]
  | case2 high low rest ih =>
      cases bytes with
      | nil =>
          simp [decode?, encode, Option.bind_eq_some_iff]
      | cons b bytes =>
          simp only [decode?, Option.bind_eq_bind, Option.bind_eq_some_iff, Option.pure_def,
            Option.some.injEq, List.cons.injEq, ih, encode_cons, List.map_cons]
          rw [← and_assoc, ← digits_of_byte_iff]
          constructor
          · rintro ⟨h, hhigh, l, hlow, tail, htail, hbyte, rfl⟩
            exact ⟨⟨h, l, hhigh, hlow, hbyte⟩, htail⟩
          · rintro ⟨⟨h, l, hhigh, hlow, hbyte⟩, htail⟩
            exact ⟨h, hhigh, l, hlow, bytes, htail, hbyte, rfl⟩
  | case3 c =>
      refine ⟨fun hnone => absurd hnone (by simp [decode?]), fun htext => ?_⟩
      have hlength := congrArg List.length htext
      rw [length_encode, List.length_map, List.length_singleton] at hlength
      omega

end Hex

end DeviceGate.Text
