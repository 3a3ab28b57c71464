/-!
The URL-safe base-64 form of byte strings, without padding: three bytes become four characters of an
alphabet in which `-` and `_` stand for 62 and 63.

* `Base64Url.encode`: the text of a byte string.
* `Base64Url.length_encode`: four characters for every three bytes, rounded up for the rest.
-/

namespace DeviceGate.Text.Base64Url

/-- The character of a six-bit value. -/
def symbol (n : Nat) : Char :=
  let k := n % 64
  if k < 26 then Char.ofNat ('A'.toNat + k)
  else if k < 52 then Char.ofNat ('a'.toNat + (k - 26))
  else if k < 62 then Char.ofNat ('0'.toNat + (k - 52))
  else if k = 62 then '-' else '_'

/-- Four characters for three bytes; one or two bytes left over take two or three. -/
def encode : List UInt8 → List Char
  | [] => []
  | [a] => [symbol (a.toNat / 4), symbol (a.toNat * 16)]
  | [a, b] =>
    [symbol (a.toNat / 4), symbol (a.toNat * 16 + b.toNat / 16), symbol (b.toNat * 4)]
  | a :: b :: c :: rest =>
    [symbol (a.toNat / 4), symbol (a.toNat * 16 + b.toNat / 16),
      symbol (b.toNat * 4 + c.toNat / 64), symbol c.toNat] ++ encode rest

/-- Whether the character belongs to the alphabet. -/
def isSymbol (c : Char) : Bool :=
  c.isAlphanum || c = '-' || c = '_'

theorem length_encode (bytes : List UInt8) :
    (encode bytes).length = (4 * bytes.length + 2) / 3 := by
  fun_induction encode bytes with
  | case1 => rfl
  | case2 => simp
  | case3 => simp
  | case4 a b c rest ih =>
    simp [ih]
    omega

end DeviceGate.Text.Base64Url
