/-!
Hexadecimal text of byte strings: two digits a byte, the high half first.

* `Hex.encode` writes lower-case digits; `Hex.decode?` reads digits of either case and refuses an
  odd number of characters and every character that is no digit.
* `Hex.decode?_encode`: reading undoes writing.
-/

namespace DeviceGate.Text.Hex

/-- The lower-case digit of a half byte. -/
def digit (n : Nat) : Char :=
  Nat.digitChar (n % 16)

/-- The value of a digit of either case. -/
def digitValue? (c : Char) : Option Nat :=
  if '0' ≤ c ∧ c ≤ '9' then some (c.toNat - '0'.toNat)
  else if 'a' ≤ c ∧ c ≤ 'f' then some (c.toNat - 'a'.toNat + 10)
  else if 'A' ≤ c ∧ c ≤ 'F' then some (c.toNat - 'A'.toNat + 10)
  else none

/-- Two digits for every byte. -/
def encode (bytes : List UInt8) : List Char :=
  bytes.flatMap fun b => [digit (b.toNat / 16), digit b.toNat]

/-- The bytes that the digits stand for. -/
def decode? : List Char → Option (List UInt8)
  | [] => some []
  | high :: low :: rest => do
    let h ← digitValue? high
    let l ← digitValue? low
    let bytes ← decode? rest
    return UInt8.ofNat (16 * h + l) :: bytes
  | [_] => none

theorem digitValue?_digit (n : Nat) : digitValue? (digit n) = some (n % 16) := by
  have all : ∀ k : Fin 16, digitValue? (Nat.digitChar k.val) = some k.val := by decide
  exact all ⟨n % 16, Nat.mod_lt _ (by decide)⟩

theorem decode?_encode (bytes : List UInt8) : decode? (encode bytes) = some bytes := by
  induction bytes with
  | nil => rfl
  | cons b r ih =>
    have hb : b.toNat < 256 := b.toNat_lt
    have hdiv : b.toNat / 16 % 16 = b.toNat / 16 := Nat.mod_eq_of_lt (by omega)
    have hsum : 16 * (b.toNat / 16) + b.toNat % 16 = b.toNat := by omega
    show decode? (digit (b.toNat / 16) :: digit b.toNat :: encode r) = some (b :: r)
    simp only [decode?, digitValue?_digit, ih, hdiv]
    show some (UInt8.ofNat (16 * (b.toNat / 16) + b.toNat % 16) :: r) = some (b :: r)
    rw [hsum, UInt8.ofNat_toNat]

theorem length_encode (bytes : List UInt8) : (encode bytes).length = 2 * bytes.length := by
  induction bytes with
  | nil => rfl
  | cons b r ih =>
    have : encode (b :: r) = digit (b.toNat / 16) :: digit b.toNat :: encode r := rfl
    simp [this, ih]
    omega

end DeviceGate.Text.Hex
